import VcpuPinning.Agent.Notice
import VcpuPinning.Proofs.Rpc.Messages
import VcpuPinning.Proofs.Store.Operations

/-!
# The documents of the service

A `Document` names a kind of values that the service writes as JSON : the records of the store, the
notices of instances, and the calls and replies with their payloads. The main statement,
`Document.read_back`, is that every value of every kind is read back from its text, and that a get
after a write to the store therefore answers with the record that was written. The texts of the
records with maps and of faults are given member by member.
-/

namespace VcpuPinning

open Json (Faithful)

/-! ## Texts of objects -/

namespace Json

variable {α : Type}

/-- The text of an object whose members have the given names and texts. -/
def objectText (members : List (String × String)) : String :=
  "\x7b" ++ ",".intercalate (members.map fun (name, value) => "\"" ++ name ++ "\":" ++ value) ++
    "\x7d"

/-- A member of an object as it is written. -/
def memberText (m : List Char × Json) : List Char :=
  quote m.1 ++ ':' :: render m.2

/-- The members of an object that has one, up to its closing brace. -/
theorem memberText_append_renderMembers (m : List Char × Json) (ms : List (List Char × Json)) :
    memberText m ++ renderMembers ms =
      [','].intercalate ((m :: ms).map memberText) ++ ['\x7d'] := by
  induction ms generalizing m with
  | nil => simp [renderMembers]
  | cons n ms ih =>
    have hn : renderMembers (n :: ms) = ',' :: (memberText n ++ renderMembers ms) := by
      simp [renderMembers, memberText]
    rw [hn, ih]
    simp [List.intercalate_cons_cons]

theorem render_object (ms : List (List Char × Json)) :
    render (.object ms) = '\x7b' :: ([','].intercalate (ms.map memberText) ++ ['\x7d']) := by
  cases ms with
  | nil => rfl
  | cons m ms =>
    rw [← memberText_append_renderMembers]
    simp [render, memberText]

theorem toText_object (ms : List (List Char × Json)) :
    toText (.object ms) = objectText (ms.map fun m => (String.ofList m.1, m.2.toText)) := by
  refine String.toList_inj.1 ?_
  have hm : ms.map memberText =
      ms.map fun m => ("\"" ++ String.ofList m.1 ++ "\":" ++ m.2.toText).toList :=
    List.map_congr_left fun m _ => by simp [memberText, quote, toText]
  simp [toText, objectText, render_object, String.toList_intercalate, hm, Function.comp_def]

/-- The text of a map from numbers: each number is a name, in decimal digits. -/
theorem toText_ofNumberMap (write : α → Json) (m : SortedMap UInt32 α) :
    (ofNumberMap write m).toText =
      objectText (m.entries.map fun e => (toString e.1, (write e.2).toText)) := by
  rw [ofNumberMap, toText_object, List.map_map]
  rfl

/-- The text of a record: the fields that are there, under their names. -/
theorem toText_record {names : List String} (plain : ∀ n ∈ names, escape n.toList = n.toList)
    (values : List (Option Json)) : (record names values).toText =
      objectText ((named names values).map fun m => (m.1, m.2.toText)) := by
  rw [record, obj, toText_object, List.map_map]
  refine congrArg objectText (List.map_congr_left fun m hm => ?_)
  simp [plain m.1 (fst_mem_of_mem_named hm)]

theorem toText_uint32 (n : UInt32) : (nat n.toNat).toText = toString n :=
  rfl

theorem toText_uint64 (n : UInt64) : (nat n.toNat).toText = toString n :=
  rfl

end Json

/-! ## Texts of records -/

theorem Host.toText_toJson (h : Host) : h.toJson.toText = Json.objectText [
    ("host_name", (Json.text h.name).toText),
    ("cpu_topology", Json.objectText (h.topology.entries.map fun e =>
      (toString e.1, (Json.ofList (fun cpu => Json.nat cpu.toNat) e.2).toText))),
    ("maxcpu", toString h.maxCpu),
    ("rpc_address", (Json.ofOption Json.text h.rpcAddress).toText),
    ("updated_at", toString h.updatedAt)] := by
  rw [toJson, Json.toText_record (by decide)]
  simp [Json.named, fieldNames, topologyToJson, Json.toText_ofNumberMap, Json.toText_uint32,
    Json.toText_uint64]

theorem Instance.toText_toJson (i : Instance) : i.toJson.toText = Json.objectText [
    ("uuid", (Json.text i.uuid).toText),
    ("host", (Json.ofOption Json.text i.host).toText),
    ("status", (Json.text i.status.word).toText),
    ("cpu_mappings", Json.objectText (i.cpuMappings.entries.map fun e =>
      (toString e.1, e.2.toJson.toText))),
    ("updated_at", toString i.updatedAt)] := by
  rw [toJson, Json.toText_record (by decide)]
  simp [Json.named, fieldNames, Json.toText_ofNumberMap, Json.toText_uint64]

/-- A fault has a member for its refused specification only if it has one. -/
theorem Fault.toText_toJson (f : Fault) : f.toJson.toText = Json.objectText
    ([("kind", (Json.text f.kind.word).toText), ("message", (Json.text f.message).toText)] ++
      f.specError.toList.map fun e => ("spec_error", e.toJson.toText)) := by
  rw [toJson, Json.toText_record (by decide)]
  cases f.specError <;> simp [Json.named, fieldNames]

/-! ## Notices -/

namespace Agent.Notice

/-- A notice with its metadata written in the given order. -/
def toJsonIn (metadata : List (String × String)) (n : Notice) : Json :=
  Json.record fieldNames
    [some (Json.text n.eventType), some (Json.ofOption Json.text n.publisherId),
      some (Json.text n.instanceUuid), some (Json.ofOption Json.text n.host),
      some (Json.obj (metadata.map fun e => (e.1, Json.text e.2)))]

theorem toJsonIn_entries (n : Notice) : n.toJsonIn n.metadata.entries = n.toJson := by
  rw [toJsonIn, toJson, Json.ofTextMap, Json.obj, List.map_map]
  rfl

theorem spelled_toJsonIn (metadata : List (String × String)) (n : Notice) :
    (n.toJsonIn metadata).Spelled :=
  Json.FieldsSpelled.record <|
    .field (Json.spelled_text _) <| .field (Json.spelled_ofOption Json.spelled_text _) <|
      .field (Json.spelled_text _) <| .field (Json.spelled_ofOption Json.spelled_text _) <|
      .field (Faithful.text.spelled_members _) .nil

/-- A notice is read back whatever the order of its metadata. -/
theorem ofJson?_toJsonIn {metadata : List (String × String)} {n : Notice}
    (h : metadata.Perm n.metadata.entries) : ofJson? (n.toJsonIn metadata) = some n := by
  rw [ofJson?, toJsonIn, Json.toSlots?_record (by decide) rfl]
  simp [Json.Slots.required, Json.Slots.defaulted, Json.Slots.nullable, Json.Slots.get,
    Faithful.text.toTextMap?_of_perm h]

theorem faithful : Faithful toJson ofJson? where
  spelled n := n.toJsonIn_entries ▸ n.spelled_toJsonIn _
  read_write n := n.toJsonIn_entries ▸ ofJson?_toJsonIn (.refl _)

end Agent.Notice

/-! ## Kinds of documents -/

/-- The kinds of values that the service writes as documents. -/
inductive Document where
  | host
  | inst
  | mapping
  | draft
  | cpuSet
  | specError
  | caller
  | fault
  | notice
  | payload (route : Rpc.Route)
  | answer (route : Rpc.Route)
  /-- The envelope of a call. -/
  | call (content : Document)
  /-- The envelope of a reply. -/
  | reply (content : Document)

namespace Document

/-- The values of a kind. -/
@[reducible] def Value : Document → Type
  | host => Host
  | inst => Instance
  | mapping => Mapping
  | draft => Draft
  | cpuSet => CpuSet
  | specError => SpecError
  | caller => Caller
  | fault => Fault
  | notice => Agent.Notice
  | payload route => route.Payload
  | answer route => route.Answer
  | call content => Rpc.Call content.Value
  | reply content => Except Fault content.Value

/-- A value of a kind as a document. -/
def toJson : (d : Document) → d.Value → Json
  | host => Host.toJson
  | inst => Instance.toJson
  | mapping => Mapping.toJson
  | draft => Draft.toJson
  | cpuSet => CpuSet.toJson
  | specError => SpecError.toJson
  | caller => Caller.toJson
  | fault => Fault.toJson
  | notice => Agent.Notice.toJson
  | payload route => route.payloadToJson
  | answer route => route.answerToJson
  | call content => Rpc.Call.toJson content.toJson
  | reply content => Rpc.replyToJson content.toJson

/-- The value of a kind that a document denotes. -/
def ofJson? : (d : Document) → Json → Option d.Value
  | host => Host.ofJson?
  | inst => Instance.ofJson?
  | mapping => Mapping.ofJson?
  | draft => Draft.ofJson?
  | cpuSet => CpuSet.ofJson?
  | specError => SpecError.ofJson?
  | caller => Caller.ofJson?
  | fault => Fault.ofJson?
  | notice => Agent.Notice.ofJson?
  | payload route => route.payloadOfJson?
  | answer route => route.answerOfJson?
  | call content => Rpc.Call.ofJson? content.ofJson?
  | reply content => Rpc.replyOfJson? content.ofJson?

/-- Every kind of values is written faithfully; an envelope is if its content is. -/
theorem faithful : (d : Document) → Faithful d.toJson d.ofJson?
  | host => Host.faithful
  | inst => Instance.faithful
  | mapping => Mapping.faithful
  | draft => Draft.faithful
  | cpuSet => CpuSet.faithful
  | specError => SpecError.faithful
  | caller => Caller.faithful
  | fault => Fault.faithful
  | notice => Agent.Notice.faithful
  | payload route => route.payload_faithful
  | answer route => route.answer_faithful
  | call content => Rpc.Call.faithful content.faithful
  | reply content => Rpc.reply_faithful content.faithful

end Document

/-! ## The store -/

namespace Store

variable {α : Type} {write : α → Json} {read : Json → Option α}

theorem find_putRow (h : Faithful write read) (t : Table) (key : String) (a : α) (s : Store) :
    find t read key (s.putRow t key (encode write a)) =
      (.ok (some a), s.putRow t key (encode write a)) := by
  have hd : decode read (encode write a) = .ok a := by
    rw [decode, encode, h.read_sent]
  rw [find_eq, row?_putRow_self, Option.elim_some, hd]
  rfl

/-- A report that was written is found under its key. -/
theorem find_upsert (h : Faithful write read) {t : Table} {changes : α → α → List String}
    {key : String} {a : α} {s s' : Store} {outcome : Upsert}
    (hu : upsert t write read changes key a s = (.ok outcome, s')) (hw : outcome ≠ .unchanged) :
    find t read key s' = (.ok (some a), s') := by
  rcases upsert_cases t write read changes key a s with ⟨e, he⟩ | he | ⟨o, -, he⟩ <;> rw [he] at hu
  · cases hu
  · cases hu
    exact absurd rfl hw
  · cases hu
    exact find_putRow h t key a s

theorem getMapping_createMapping {draft : Draft} {now : UInt64} {s s' : Store} {m : Mapping}
    (h : s.createMapping draft now = (.ok m, s')) :
    s'.getMapping draft.instanceUuid = (.ok (some m), s') := by
  rcases createMapping_cases now s draft with ⟨e, he⟩ | ⟨-, he⟩ <;> rw [he] at h
  · cases h
  · cases h
    exact find_putRow Mapping.faithful .mappings draft.instanceUuid _ _

theorem getMapping_updateMapping {uuid : String} {change : Mapping → Mapping} {now : UInt64}
    {s s' : Store} {m : Mapping} (h : s.updateMapping uuid change now = (.ok m, s')) :
    s'.getMapping uuid = (.ok (some m), s') := by
  rcases updateMapping_cases now s uuid change with ⟨e, he⟩ | ⟨m₀, -, -, he⟩ <;> rw [he] at h
  · cases h
  · cases h
    exact find_putRow Mapping.faithful .mappings uuid _ s

end Store

/-- Every value is read back from the text of its document, and a notice whatever the order of its
metadata. A map from numbers is written with decimal numbers as names, and a fault without a refused
specification without a member for it. After a write to the store that succeeded, a get answers with
the record that was written. -/
theorem Document.read_back :
    (∀ (d : Document) (a : d.Value), (Json.parse? (d.toJson a).toText).bind d.ofJson? = some a) ∧
    (∀ (n : Agent.Notice) metadata, metadata.Perm n.metadata.entries →
      (Json.parse? (n.toJsonIn metadata).toText).bind Agent.Notice.ofJson? = some n) ∧
    (∀ h : Host, h.toJson.toText = Json.objectText [
      ("host_name", (Json.text h.name).toText),
      ("cpu_topology", Json.objectText (h.topology.entries.map fun e =>
        (toString e.1, (Json.ofList (fun cpu => Json.nat cpu.toNat) e.2).toText))),
      ("maxcpu", toString h.maxCpu),
      ("rpc_address", (Json.ofOption Json.text h.rpcAddress).toText),
      ("updated_at", toString h.updatedAt)]) ∧
    (∀ i : Instance, i.toJson.toText = Json.objectText [
      ("uuid", (Json.text i.uuid).toText),
      ("host", (Json.ofOption Json.text i.host).toText),
      ("status", (Json.text i.status.word).toText),
      ("cpu_mappings", Json.objectText (i.cpuMappings.entries.map fun e =>
        (toString e.1, e.2.toJson.toText))),
      ("updated_at", toString i.updatedAt)]) ∧
    (∀ f : Fault, f.toJson.toText = Json.objectText
      ([("kind", (Json.text f.kind.word).toText), ("message", (Json.text f.message).toText)] ++
        f.specError.toList.map fun e => ("spec_error", e.toJson.toText))) ∧
    (∀ (s s' : Store) host outcome, s.upsertHost host = (.ok outcome, s') →
      outcome ≠ .unchanged → s'.getHost host.name = (.ok (some host), s')) ∧
    (∀ (s s' : Store) inst outcome, s.upsertInstance inst = (.ok outcome, s') →
      outcome ≠ .unchanged → s'.getInstance inst.uuid = (.ok (some inst), s')) ∧
    (∀ (s s' : Store) draft now m, s.createMapping draft now = (.ok m, s') →
      s'.getMapping draft.instanceUuid = (.ok (some m), s')) ∧
    ∀ (s s' : Store) uuid change now m, s.updateMapping uuid change now = (.ok m, s') →
      s'.getMapping uuid = (.ok (some m), s') := by
  refine ⟨fun d a => d.faithful.read_sent a, fun n metadata hp => ?_, Host.toText_toJson,
    Instance.toText_toJson, Fault.toText_toJson, fun s s' host outcome hu hw => ?_,
    fun s s' inst outcome hu hw => ?_, fun s s' draft now m h => ?_,
    fun s s' uuid change now m h => ?_⟩
  · rw [Json.parse?_toText (n.spelled_toJsonIn metadata)]
    exact Agent.Notice.ofJson?_toJsonIn hp
  · exact Store.find_upsert Host.faithful hu hw
  · exact Store.find_upsert Instance.faithful hu hw
  · exact Store.getMapping_createMapping h
  · exact Store.getMapping_updateMapping h

/-- A host that is written to a store without rows is there afterwards. -/
theorem Document.read_back_of_new_host :
    let host : Host := ⟨"node-1", .ofList [(0, [0, 1]), (1, [2, 3])], 4, none, 0⟩
    (Store.empty.upsertHost host).1 = .ok .created ∧
      ((Store.empty.upsertHost host).2.getHost "node-1").1 = .ok (some host) := by
  intro host
  have hwritten : Store.empty.upsertHost host =
      (.ok .created, (Store.empty.upsertHost host).2) := rfl
  obtain ⟨-, -, -, -, -, hget, -⟩ := Document.read_back
  exact ⟨congrArg Prod.fst hwritten,
    congrArg Prod.fst (hget .empty _ host .created hwritten nofun)⟩

end VcpuPinning
