import VcpuPinning.Proofs.Json.Faithful
import VcpuPinning.Rpc.Message

/-!
# Messages are faithful

Every call and every reply is read back from its document. Each record is faithful since its fields
are : the fields of a written record are found under their names, and one that is left out when it is
missing counts as missing. `Route.payload_faithful` and `Route.answer_faithful` collect the payloads
and the answers of all routes.
-/

namespace VcpuPinning

open Json (FieldsSpelled Faithful)

attribute [local simp] Json.Slots.required Json.Slots.optional Json.Slots.defaulted
  Json.Slots.nullable Json.Slots.get

/-! ## Records of the store -/

theorem Caller.faithful : Faithful toJson ofJson? := by
  refine .record (by decide) (fun _ => rfl) (fun c => ?_) fun c => ?_
  · exact .field (Json.spelled_text _) <| .field (Json.spelled_ofOption Json.spelled_text _) <|
      .field (Json.spelled_ofOption Json.spelled_text _) <| .field (.bool _) .nil
  · simp [Json.toBool?]

theorem Mapping.faithful : Faithful toJson ofJson? :=
  ⟨spelled_toJson, ofJson?_toJson⟩

theorem Draft.faithful : Faithful toJson ofJson? := by
  refine .record (by decide) (fun _ => rfl) (fun d => ?_) fun d => ?_
  · exact .field (Json.spelled_text _) <| .field (Json.spelled_ofOption Json.spelled_text _) <|
      .field (Json.spelled_ofOption Json.spelled_text _) <|
      .field (Json.spelled_ofOption Json.spelled_text _) <| .field (Json.spelled_text _) .nil
  · simp

namespace Host

theorem topology_faithful : Faithful topologyToJson
    (Json.toNumberMap? (Json.toList? Json.toUInt32?)) :=
  .numberMap (.list .uint32)

theorem faithful : Faithful toJson ofJson? := by
  refine .record (by decide) (fun _ => rfl) (fun h => ?_) fun h => ?_
  · exact .field (Json.spelled_text _) <| .field (topology_faithful.spelled _) <|
      .field (Json.spelled_nat _) <| .field (Json.spelled_ofOption Json.spelled_text _) <|
      .field (Json.spelled_nat _) .nil
  · simp [topology_faithful.read_write, Faithful.uint32.read_write]

end Host

theorem CpuSet.faithful : Faithful toJson ofJson? where
  spelled s := (Faithful.list .bool).spelled s.bits
  read_write s := by
    rw [ofJson?, toJson, (Faithful.list .bool).read_write, Option.map_some]

theorem PowerState.faithful : Faithful (fun s => Json.text (word s)) ofJson? :=
  .tag ofWord?_word

theorem Instance.faithful : Faithful toJson ofJson? := by
  refine .record (by decide) (fun _ => rfl) (fun i => ?_) fun i => ?_
  · exact .field (Json.spelled_text _) <| .field (Json.spelled_ofOption Json.spelled_text _) <|
      .field (Json.spelled_text _) <| .field ((Faithful.numberMap CpuSet.faithful).spelled _) <|
      .field (Json.spelled_nat _) .nil
  · simp [PowerState.faithful.read_write, (Faithful.numberMap CpuSet.faithful).read_write]

/-! ## Faults -/

theorem SpecError.faithful : Faithful toJson ofJson? := by
  refine .record (by decide) (fun _ => rfl) (fun e => ?_) fun e => ?_
  · exact .field (Json.spelled_text _) <| .field (Json.spelled_text _) .nil
  · simp

theorem SpecError.toJson_ne_null (e : SpecError) : e.toJson ≠ .null :=
  Json.record_ne_null _ _

theorem Fault.Kind.faithful : Faithful (fun k => Json.text (word k)) ofJson? :=
  .tag ofWord?_word

theorem Fault.faithful : Faithful toJson ofJson? := by
  refine .record (by decide) (fun _ => rfl) (fun f => ?_) fun f => ?_
  · exact .field (Json.spelled_text _) <| .field (Json.spelled_text _) <|
      .cons (by
        intro j hj
        obtain ⟨e, -, rfl⟩ := Option.map_eq_some_iff.1 hj
        exact SpecError.faithful.spelled e) .nil
  · obtain ⟨kind, message, specError⟩ := f
    cases specError with
    | none => simp [Kind.faithful.read_write]
    | some e =>
      have he := (SpecError.faithful.option SpecError.toJson_ne_null).read_write (some e)
      rw [Json.ofOption] at he
      simp [Kind.faithful.read_write, he]

namespace Rpc

/-! ## Payloads -/

theorem CreateMapping.faithful : Faithful toJson ofJson? := by
  refine .record (by decide) (fun _ => rfl) (fun p => ?_) fun p => ?_
  · exact .field (Json.spelled_text _) <| .field (Json.spelled_text _) <| .field (.bool _) <|
      .field (Json.spelled_ofOption Json.spelled_text _) .nil
  · simp [Json.toBool?]

theorem ReconcileInstance.faithful : Faithful toJson ofJson? := by
  refine .record (by decide) (fun _ => rfl) (fun p => ?_) fun p => ?_
  · exact .field (Json.spelled_text _) <| .field (Json.spelled_text _) .nil
  · simp

theorem ReconcileHost.faithful : Faithful toJson ofJson? := by
  refine .record (by decide) (fun _ => rfl) (fun p => ?_) fun p => ?_
  · exact .field (Host.faithful.spelled _) .nil
  · simp [Host.faithful.read_write]

theorem ReconcileInstances.faithful : Faithful toJson ofJson? := by
  refine .record (by decide) (fun _ => rfl) (fun p => ?_) fun p => ?_
  · exact .field (Json.spelled_text _) <| .field ((Faithful.list Instance.faithful).spelled _) .nil
  · simp [(Faithful.list Instance.faithful).read_write]

theorem ReapplyMapping.faithful : Faithful toJson ofJson? := by
  refine .record (by decide) (fun _ => rfl) (fun p => ?_) fun p => ?_
  · exact .field (Json.spelled_text _) .nil
  · simp

theorem ApplyMapping.faithful : Faithful toJson ofJson? := by
  refine .record (by decide) (fun _ => rfl) (fun p => ?_) fun p => ?_
  · exact .field (Mapping.faithful.spelled _) .nil
  · simp [Mapping.faithful.read_write]

/-! ## Answers -/

theorem ReconciledInstance.faithful : Faithful toJson ofJson? := by
  refine .record (by decide) (fun _ => rfl) (fun p => ?_) fun p => ?_
  · exact .field (Json.spelled_ofOption Mapping.faithful.spelled _) .nil
  · have hm := (Mapping.faithful.option fun _ => Json.record_ne_null _ _).read_write p.mapping
    simp [hm]

theorem ReconciledHost.faithful : Faithful toJson ofJson? := by
  refine .record (by decide) (fun _ => rfl) (fun p => ?_) fun p => ?_
  · exact .field (.bool _) <| .field ((Faithful.list .text).spelled _) .nil
  · simp [Json.toBool?, (Faithful.list .text).read_write]

theorem Summary.faithful : Faithful toJson ofJson? := by
  refine .record (by decide) (fun _ => rfl) (fun p => ?_) fun p => ?_
  · exact .field (Json.spelled_nat _) <| .field (Json.spelled_nat _) <| .field (Json.spelled_nat _) <|
      .field (Json.spelled_nat _) .nil
  · simp

theorem Applied.faithful : Faithful toJson ofJson? := by
  refine .record (by decide) (fun _ => rfl) (fun p => ?_) fun p => ?_
  · exact .field (.bool _) <| .field ((Faithful.list .bool).spelled _) .nil
  · simp [Json.toBool?, (Faithful.list .bool).read_write]

/-! ## Envelopes -/

variable {α : Type} {write : α → Json} {read : Json → Option α}

theorem Call.faithful (h : Faithful write read) :
    Faithful (toJson write) (ofJson? read) := by
  refine .record (by decide) (fun _ => rfl) (fun c => ?_) fun c => ?_
  · exact .field (Json.spelled_text _) <| .field (Caller.faithful.spelled _) <|
      .field (h.spelled _) .nil
  · simp [Caller.faithful.read_write, h.read_write]

theorem reply_faithful (h : Faithful write read) :
    Faithful (replyToJson write) (replyOfJson? read) where
  spelled r := by
    cases r with
    | ok a => exact Json.spelled_obj (by simpa using h.spelled a)
    | error f => exact Json.spelled_obj (by simpa using Fault.faithful.spelled f)
  read_write r := by
    cases r with
    | ok a => simp [replyToJson, replyOfJson?, Json.toVariant?_obj, h.read_write]
    | error f => simp [replyToJson, replyOfJson?, Json.toVariant?_obj, Fault.faithful.read_write]

/-! ## Routes -/

namespace Route

/-- What a call of a route carries. -/
@[reducible] def Payload : Route → Type
  | createMapping => CreateMapping
  | reconcileInstance => ReconcileInstance
  | reconcileHost => ReconcileHost
  | reconcileInstances => ReconcileInstances
  | reapplyMapping => ReapplyMapping
  | applyMapping => ApplyMapping

/-- What a call of a route is answered with. -/
@[reducible] def Answer : Route → Type
  | createMapping => Mapping
  | reconcileInstance => ReconciledInstance
  | reconcileHost => ReconciledHost
  | reconcileInstances => Summary
  | reapplyMapping => Mapping
  | applyMapping => Applied

/-- The payload of a call as a document. -/
def payloadToJson : (route : Route) → route.Payload → Json
  | createMapping => CreateMapping.toJson
  | reconcileInstance => ReconcileInstance.toJson
  | reconcileHost => ReconcileHost.toJson
  | reconcileInstances => ReconcileInstances.toJson
  | reapplyMapping => ReapplyMapping.toJson
  | applyMapping => ApplyMapping.toJson

/-- The payload of a call that a document denotes. -/
def payloadOfJson? : (route : Route) → Json → Option route.Payload
  | createMapping => CreateMapping.ofJson?
  | reconcileInstance => ReconcileInstance.ofJson?
  | reconcileHost => ReconcileHost.ofJson?
  | reconcileInstances => ReconcileInstances.ofJson?
  | reapplyMapping => ReapplyMapping.ofJson?
  | applyMapping => ApplyMapping.ofJson?

/-- The answer to a call as a document. -/
def answerToJson : (route : Route) → route.Answer → Json
  | createMapping => Mapping.toJson
  | reconcileInstance => ReconciledInstance.toJson
  | reconcileHost => ReconciledHost.toJson
  | reconcileInstances => Summary.toJson
  | reapplyMapping => Mapping.toJson
  | applyMapping => Applied.toJson

/-- The answer to a call that a document denotes. -/
def answerOfJson? : (route : Route) → Json → Option route.Answer
  | createMapping => Mapping.ofJson?
  | reconcileInstance => ReconciledInstance.ofJson?
  | reconcileHost => ReconciledHost.ofJson?
  | reconcileInstances => Summary.ofJson?
  | reapplyMapping => Mapping.ofJson?
  | applyMapping => Applied.ofJson?

theorem payload_faithful : (route : Route) → Faithful route.payloadToJson route.payloadOfJson?
  | createMapping => CreateMapping.faithful
  | reconcileInstance => ReconcileInstance.faithful
  | reconcileHost => ReconcileHost.faithful
  | reconcileInstances => ReconcileInstances.faithful
  | reapplyMapping => ReapplyMapping.faithful
  | applyMapping => ApplyMapping.faithful

theorem answer_faithful : (route : Route) → Faithful route.answerToJson route.answerOfJson?
  | createMapping => Mapping.faithful
  | reconcileInstance => ReconciledInstance.faithful
  | reconcileHost => ReconciledHost.faithful
  | reconcileInstances => Summary.faithful
  | reapplyMapping => Mapping.faithful
  | applyMapping => Applied.faithful

end Route

end Rpc

end VcpuPinning
