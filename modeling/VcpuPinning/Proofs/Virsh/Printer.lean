import VcpuPinning.Proofs.Text.Utf8
import VcpuPinning.Proofs.Virsh.StandIn

/-!
# A stand-in for the virsh tool

`printer` holds the domains of a host as its state, prints them in the layouts of the tool and pins
what the tool would pin, so it is a stand-in (`standIn_printer`). Each table is made of lines that
are read back as they were written (`linesOf_printed`).
-/

namespace VcpuPinning.Virsh

open Output Simulated
open Text (trim IsLine)

variable {domains : Domains} {uuid : String} {d : Domain} {maxCpu : UInt32} {topology : Topology}

/-! ## Lines -/

/-- A value behind a label, at a column. -/
def labelled (column : ℕ) (label value : String) : Line :=
  label.toList ++ ':' :: (List.replicate (column - 1 - label.length) ' ' ++ value.toList)

/-- A tag with a number. -/
def tagLine (tag close : String) (id : UInt32) : Line :=
  tag.toList ++ " id=".toList ++ '\'' :: (Text.Numeral.text id.toNat ++ '\'' :: close.toList)

/-- The lines of a NUMA cell. -/
def cellLines (e : UInt32 × List UInt32) : List Line :=
  tagLine "<cell" ">" e.1 :: (e.2.map (tagLine "<cpu" "/>") ++ ["</cell>".toList])

/-- The lines of all cells. -/
def topologyLines (t : Topology) : List Line :=
  "<capabilities>".toList :: (t.entries.flatMap cellLines ++ ["</capabilities>".toList])

/-- The row of a virtual CPU. -/
def pinLine (e : UInt32 × CpuSet) : Line :=
  ' ' :: (Text.Numeral.text e.1.toNat ++ List.replicate 6 ' ' ++ e.2.cpulist.toList)

/-- The words for a run state. -/
def stateWord : ℕ → String
  | 0 => "no state"
  | 1 => "running"
  | 2 => "idle"
  | 3 => "paused"
  | 4 => "in shutdown"
  | 5 => "shut off"
  | 6 => "crashed"
  | 7 => "pmsuspended"
  | _ => "unknown"

/-! ## Commands -/

/-- A run that prints lines. -/
def printed (ls : List Line) : Run :=
  .exited 0 (Text.Utf8.encode (String.ofList (Text.unlines ls))) []

/-- A run that ends with a message. -/
def refused (message : String) : Run :=
  .exited 1 [] (Text.Utf8.encode message)

/-- What is printed about the host. -/
def hostLines (maxCpu : UInt32) (topology : Topology) (domains : Domains) :
    List String → Option (List Line)
  | ["nodeinfo"] => some [labelled 21 "CPU(s)" (toString maxCpu)]
  | ["capabilities"] => some (topologyLines topology)
  | ["list", "--uuid"] => some ((running domains).map String.toList)
  | _ => none

/-- What is printed about a domain. -/
def domainLines (d : Domain) : List Line :=
  [labelled 16 "State" (stateWord d.stateCode),
    labelled 16 "CPU(s)" (toString (UInt32.ofNat d.pins.length))]

/-- What is printed about the pins of a domain. -/
def pinLines (pins : List CpuSet) : List Line :=
  " VCPU   CPU Affinity".toList :: "----------------------".toList ::
    (Agent.Reporter.pinsByVcpu pins).entries.map pinLine

/-- The virtual CPU and the set that the options of a pin tell. -/
def pinOptions (maxCpu : UInt32) : List String → Option (UInt32 × CpuSet)
  | ["--vcpu", number, "--cpulist", list, "--live"] =>
    (number32? number.toList).bind fun vcpu =>
      (CpuSpec.compile list maxCpu.toNat).toOption.map fun set => (vcpu, set)
  | _ => none

/-- A run of a command about a domain. -/
def domainRun (maxCpu : UInt32) (uuid : String) (d : Domain) (command : String)
    (options : List String) (domains : Domains) : Run × Domains :=
  if command = "dominfo" then (printed (domainLines d), domains)
  else if options = [] then (printed (pinLines d.pins), domains)
  else
    match pinOptions maxCpu options with
    | none => (refused "error: invalid argument", domains)
    | some (vcpu, set) =>
      if d.Pinnable vcpu then (printed [], domains.insert uuid (d.withPin vcpu set))
      else (refused "error: Requested operation is not valid", domains)

/-- A tool that has domains of its own. -/
def printer (maxCpu : UInt32) (topology : Topology) : Shell Domains := fun args domains =>
  let command := args.drop 2
  match hostLines maxCpu topology domains command with
  | some ls => (printed ls, domains)
  | none =>
    match command with
    | command :: uuid :: options =>
      match domains.get? uuid with
      | some d => domainRun maxCpu uuid d command options domains
      | none => (refused ("error: failed to get domain '" ++ uuid ++ "'"), domains)
    | _ => (refused "error: unknown command", domains)

/-- The printer, run as the tool is. -/
def printerSetup (maxCpu : UInt32) (topology : Topology) : Setup Domains where
  shell := printer maxCpu topology
  uri := "test:///default"
  timeout := .ofSeconds 30

/-! ## Lines that are read back -/

theorem linesOf_printed {ls : List Line} (h : ∀ l ∈ ls, IsLine l) :
    linesOf (Text.Utf8.decodeLossy (Text.Utf8.encode (String.ofList (Text.unlines ls)))) = ls := by
  rw [Text.Utf8.decodeLossy_encode, linesOf, String.toList_ofList, Text.lines_unlines h]

theorem isLine_text (n : ℕ) : IsLine (Text.Numeral.text n) :=
  Text.isLine_of_no_blank fun _ => isBlank_of_mem_text

theorem isLine_number (n : UInt32) : IsLine (toString n).toList := by
  rw [toList_toString]
  exact isLine_text _

theorem number_ne_empty (n : UInt32) : toString n ≠ "" := by
  rw [ne_eq, ← String.toList_inj, toList_toString]
  exact Text.Numeral.text_ne_nil _

theorem isLine_stateWord (n : ℕ) : IsLine (stateWord n).toList ∧ stateWord n ≠ "" := by
  unfold stateWord
  split <;> decide

theorem isLine_labelled {label value : String} (hlabel : '\n' ∉ label.toList)
    (hvalue : IsLine value.toList) (hne : value ≠ "") (column : ℕ) :
    IsLine (labelled column label value) := by
  have hfront : '\n' ∉ label.toList ++ ':' :: List.replicate (column - 1 - label.length) ' ' := by
    simp [hlabel]
  have hl := hvalue.append (by simpa using hne) hfront
  rwa [List.append_assoc, List.cons_append] at hl

theorem tagLine_eq (tag close : String) (id : UInt32) : tagLine tag close id =
    tag.toList ++ " id=".toList ++ '\'' :: (Text.Numeral.text id.toNat ++ ['\'']) ++
      close.toList := by
  simp [tagLine]

theorem isLine_tagLine {tag close : String} (htag : '\n' ∉ tag.toList) (hclose : IsLine close.toList)
    (hne : close ≠ "") (id : UInt32) : IsLine (tagLine tag close id) := by
  have hfront : '\n' ∉ tag.toList ++ " id=".toList ++
      '\'' :: (Text.Numeral.text id.toNat ++ ['\'']) := by
    simp [htag, (isLine_text _).1]
  rw [tagLine_eq]
  exact hclose.append (by simpa using hne) hfront

theorem isLine_cellLines (e : UInt32 × List UInt32) : ∀ l ∈ cellLines e, IsLine l := by
  intro l hl
  rw [cellLines, List.mem_cons, List.mem_append, List.mem_singleton] at hl
  rcases hl with rfl | hl | rfl
  · exact isLine_tagLine (by decide) (by decide) (by decide) _
  · obtain ⟨cpu, -, rfl⟩ := List.mem_map.1 hl
    exact isLine_tagLine (by decide) (by decide) (by decide) _
  · decide

theorem isLine_topologyLines (t : Topology) : ∀ l ∈ topologyLines t, IsLine l := by
  intro l hl
  rw [topologyLines, List.mem_cons, List.mem_append, List.mem_singleton] at hl
  rcases hl with rfl | hl | rfl
  · decide
  · obtain ⟨e, -, hl⟩ := List.mem_flatMap.1 hl
    exact isLine_cellLines e l hl
  · decide

theorem isLine_domainLines (d : Domain) : ∀ l ∈ domainLines d, IsLine l := by
  obtain ⟨hword, hne⟩ := isLine_stateWord d.stateCode
  rw [domainLines, List.forall_mem_cons, List.forall_mem_singleton]
  exact ⟨isLine_labelled (by decide) hword hne 16,
    isLine_labelled (by decide) (isLine_number _) (number_ne_empty _) 16⟩

theorem isLine_pinLine {e : UInt32 × CpuSet} (h : e.2.count ≠ 0) : IsLine (pinLine e) := by
  have hlist : IsLine e.2.cpulist.toList := Text.isLine_of_no_blank fun _ => isBlank_of_mem_cpulist
  have hne : e.2.cpulist.toList ≠ [] := by
    simpa using fun he => h (CpuSet.cpulist_eq_empty_iff.1 he)
  have hfront : '\n' ∉ ' ' :: (Text.Numeral.text e.1.toNat ++ List.replicate 6 ' ') := by
    simp [(isLine_text _).1]
  exact hlist.append hne hfront

/-! ## What the lines show -/

theorem shows_labelled {label value : String} (hcolon : ':' ∉ label.toList)
    (hlabel : trim label.toList = label.toList) (hvalue : trim value.toList = value.toList)
    (column : ℕ) (ls : List Line) : Shows label value (labelled column label value :: ls) := by
  have htrim := Text.trim_append_append (isBlank_replicate (column - 1 - label.length)) hvalue
    (List.forall_mem_nil _)
  rw [List.append_nil] at htrim
  exact .here hcolon hlabel htrim

theorem trim_number (n : UInt32) : trim (toString n).toList = (toString n).toList := by
  rw [toList_toString]
  exact Text.trim_of_ends (fun _ h => isBlank_of_mem_text (List.mem_of_head? h))
    fun _ h => isBlank_of_mem_text (List.mem_of_getLast? h)

theorem trim_stateWord (n : ℕ) : trim (stateWord n).toList = (stateWord n).toList := by
  unfold stateWord
  split <;> decide

theorem stateCode_stateWord {n : ℕ} (h : n ≤ 8) : stateCode (stateWord n) = n := by
  revert n
  decide

theorem hasId_tagLine {tag close : String} {c d : Char} (hh : tag.toList.head? = some c)
    (hc : Text.isBlank c = false) (hl : close.toList.getLast? = some d)
    (hd : Text.isBlank d = false) (id : UInt32) : HasId tag id (tagLine tag close id) := by
  have htrim : trim (tagLine tag close id) = tagLine tag close id := by
    refine Text.trim_of_ends (fun c' hc' => ?_) fun d' hd' => ?_
    · rw [tagLine, List.append_assoc, List.head?_append, hh] at hc'
      exact Option.some.inj hc' ▸ hc
    · rw [tagLine_eq, List.getLast?_append, hl] at hd'
      exact Option.some.inj hd' ▸ hd
  exact ⟨'\'', close.toList, by rw [htrim]; rfl, .inl rfl⟩

theorem cpus_map (cpus : List UInt32) : Cpus (cpus.map (tagLine "<cpu" "/>")) cpus := by
  induction cpus with
  | nil => exact .nil
  | cons cpu cpus ih =>
    exact .cpu (hasId_tagLine rfl rfl rfl rfl cpu) ih

theorem cells_flatMap {ls : List Line} (h : Cells ls []) (cells : List (UInt32 × List UInt32)) :
    Cells (cells.flatMap cellLines ++ ls) cells := by
  induction cells with
  | nil => exact h
  | cons e cells ih =>
    rw [List.flatMap_cons, cellLines, List.append_assoc, List.cons_append, List.append_assoc]
    exact .cell (hasId_tagLine rfl rfl rfl rfl e.1) (cpus_map e.2)
      (by decide) ih

theorem showsTopology_topologyLines (t : Topology) : ShowsTopology t (topologyLines t) := by
  have hlast : Cells ["</capabilities>".toList] [] := .other (by decide) .nil
  refine ⟨t.entries, t.entries, .other (by decide) (cells_flatMap hlast t.entries), ?_, .refl _⟩
  exact List.forall₂_same.2 fun e _ => ⟨rfl, .refl _⟩

theorem shows_domainLines (d : Domain) : Shows "State" (stateWord d.stateCode) (domainLines d) ∧
    Shows "CPU(s)" (toString (UInt32.ofNat d.pins.length)) (domainLines d) := by
  refine ⟨shows_labelled (by decide) (by decide) (trim_stateWord _) 16 _, .skip ?_
    (shows_labelled (by decide) (by decide) (trim_number _) 16 _)⟩
  have hcolon : ':' ∉ "State".toList := by decide
  rw [labelled, cut_colon hcolon]
  rintro _ ⟨⟩
  change trim "State".toList ≠ "CPU(s)".toList
  decide

theorem names_map {names : List String} (h : ∀ name ∈ names, IsName name) :
    Names (names.map String.toList) names := by
  induction names with
  | nil => exact .nil
  | cons name names ih =>
    obtain ⟨hname, hnames⟩ := List.forall_mem_cons.1 h
    exact .name hname.trimmed hname.nonempty (ih hnames)

theorem isRow_pinLine {vcpu : UInt32} {set : CpuSet} (h : set.count ≠ 0) :
    IsRow vcpu set (pinLine (vcpu, set)) := by
  have hne : set.cpulist.toList ≠ [] := by
    simpa using fun he => h (CpuSet.cpulist_eq_empty_iff.1 he)
  have htrim : trim (Text.Numeral.text vcpu.toNat ++ List.replicate 6 ' ' ++ set.cpulist.toList) =
      Text.Numeral.text vcpu.toNat ++ List.replicate 6 ' ' ++ set.cpulist.toList := by
    refine Text.trim_of_ends (fun c hc => ?_) fun c hc => ?_
    · rw [List.append_assoc, List.head?_append_of_ne_nil _ (Text.Numeral.text_ne_nil _)] at hc
      exact isBlank_of_mem_text (List.mem_of_head? hc)
    · rw [List.getLast?_append_of_ne_nil _ hne] at hc
      exact isBlank_of_mem_cpulist (List.mem_of_getLast? hc)
  have hblank : ∀ c ∈ [' '], Text.isBlank c := List.forall_mem_singleton.2 rfl
  have hline := Text.trim_append_append hblank htrim (List.forall_mem_nil _)
  rw [List.append_nil] at hline
  exact isRow_tabular (by decide) hline

theorem pins_map {rows : List (UInt32 × CpuSet)} (h : ∀ e ∈ rows, e.2.count ≠ 0) :
    Pins (rows.map pinLine) rows := by
  induction rows with
  | nil => exact .nil
  | cons e rows ih =>
    obtain ⟨he, hrows⟩ := List.forall_mem_cons.1 h
    exact .row (isRow_pinLine he) (ih hrows)

theorem mem_of_mem_pinsByVcpu {pins : List CpuSet} {e : UInt32 × CpuSet}
    (h : e ∈ (Agent.Reporter.pinsByVcpu pins).entries) : e.2 ∈ pins := by
  obtain ⟨⟨set, vcpu⟩, hm, rfl⟩ := List.mem_map.1 (SortedMap.mem_of_mem_ofList h)
  exact List.fst_mem_of_mem_zipIdx hm

theorem isLine_pinLines {pins : List CpuSet} (h : ∀ set ∈ pins, set.count ≠ 0) :
    ∀ l ∈ pinLines pins, IsLine l := by
  rw [pinLines, List.forall_mem_cons, List.forall_mem_cons, List.forall_mem_map]
  exact ⟨by decide, by decide, fun e he => isLine_pinLine (h e.2 (mem_of_mem_pinsByVcpu he))⟩

theorem showsPins_pinLines {pins : List CpuSet} (h : ∀ set ∈ pins, set.count ≠ 0) :
    ShowsPins (Agent.Reporter.pinsByVcpu pins) (pinLines pins) :=
  ⟨_, .heading (isHeading_of_head rfl rfl (by decide)) (.heading (isHeading_of_head rfl rfl (by decide))
    (pins_map fun e he => h e.2 (mem_of_mem_pinsByVcpu he))), .refl _⟩

/-! ## What the runs print -/

theorem answers_of_printed {args : List String} {st left : Domains} {ls : List Line}
    {layout : List Line → Prop}
    (hrun : printer maxCpu topology ("-c" :: "test:///default" :: args) st = (printed ls, left))
    (hls : ∀ l ∈ ls, IsLine l) (h : layout ls) :
    Answers (printerSetup maxCpu topology) id args st left layout :=
  ⟨_, _, left, hrun, rfl, by rwa [linesOf_printed hls]⟩

theorem fails_of_refused {args : List String} {st : Domains} {message : String}
    {said : String → Prop}
    (hrun : printer maxCpu topology ("-c" :: "test:///default" :: args) st = (refused message, st))
    (h : said message) : Fails (printerSetup maxCpu topology) id args st said :=
  ⟨1, [], _, st, Nat.one_ne_zero, hrun, rfl, by rwa [Text.Utf8.decodeLossy_encode]⟩

theorem hostLines_of_about {command : String} (h : command = "dominfo" ∨ command = "vcpupin")
    (maxCpu : UInt32) (topology : Topology) (domains : Domains) (uuid : String)
    (options : List String) :
    hostLines maxCpu topology domains (command :: uuid :: options) = none := by
  rcases h with rfl | rfl <;> simp [hostLines]

theorem printer_of_known {command : String} (h : command = "dominfo" ∨ command = "vcpupin")
    (known : domains.get? uuid = some d) (options : List String) :
    printer maxCpu topology ("-c" :: "test:///default" :: command :: uuid :: options) domains =
      domainRun maxCpu uuid d command options domains := by
  simp only [printer, List.drop_succ_cons, List.drop_zero, hostLines_of_about h, known]

theorem printer_of_unknown {command : String} (h : command = "dominfo" ∨ command = "vcpupin")
    (missing : domains.get? uuid = none) (options : List String) :
    printer maxCpu topology ("-c" :: "test:///default" :: command :: uuid :: options) domains =
      (refused ("error: failed to get domain '" ++ uuid ++ "'"), domains) := by
  simp only [printer, List.drop_succ_cons, List.drop_zero, hostLines_of_about h, missing]

theorem pinOptions_pin (maxCpu vcpu : UInt32) (list : String) :
    pinOptions maxCpu ["--vcpu", toString vcpu, "--cpulist", list, "--live"] =
      (CpuSpec.compile list maxCpu.toNat).toOption.map fun set => (vcpu, set) := by
  simp only [pinOptions, toList_toString, number32?_text, Option.bind_some]

theorem domainRun_pin (maxCpu : UInt32) (uuid : String) (d : Domain) (vcpu : UInt32)
    (list : String) (domains : Domains) :
    domainRun maxCpu uuid d "vcpupin" ["--vcpu", toString vcpu, "--cpulist", list, "--live"]
        domains =
      match (CpuSpec.compile list maxCpu.toNat).toOption with
      | none => (refused "error: invalid argument", domains)
      | some set =>
        if d.Pinnable vcpu then (printed [], domains.insert uuid (d.withPin vcpu set))
        else (refused "error: Requested operation is not valid", domains) := by
  rw [domainRun, if_neg (by decide), if_neg (List.cons_ne_nil _ _), pinOptions_pin]
  cases (CpuSpec.compile list maxCpu.toNat).toOption <;> rfl

/-- The printer shows whatever it holds and pins whatever it holds. -/
theorem standIn_printer (maxCpu : UInt32) (topology : Topology) :
    StandIn (printerSetup maxCpu topology) maxCpu topology id := by
  intro st printable
  constructor
  case nodeinfo =>
    have hline : ∀ l ∈ [labelled 21 "CPU(s)" (toString maxCpu)], IsLine l := by
      rw [List.forall_mem_singleton]
      exact isLine_labelled (by decide) (isLine_number maxCpu) (number_ne_empty maxCpu) 21
    exact answers_of_printed rfl hline
      (shows_labelled (by decide) (by decide) (trim_number maxCpu) 21 [])
  case capabilities =>
    exact answers_of_printed rfl (isLine_topologyLines topology)
      (showsTopology_topologyLines topology)
  case list =>
    have hnames : ∀ name ∈ running st, IsName name := by
      intro name hname
      obtain ⟨e, he, rfl⟩ := List.mem_map.1 hname
      exact (printable e.1 e.2 (SortedMap.mem_entries_iff.1 (List.mem_filter.1 he).1)).name
    have hlines : ∀ l ∈ (running st).map String.toList, IsLine l := by
      rw [List.forall_mem_map]
      exact fun name hname =>
        Text.isLine_of_trim (hnames name hname).trimmed (hnames name hname).singleLine
    exact answers_of_printed rfl hlines (names_map hnames)
  case dominfo =>
    intro uuid d known
    exact ⟨stateWord d.stateCode, stateCode_stateWord (printable uuid d known).stateCode,
      answers_of_printed (printer_of_known (.inl rfl) known []) (isLine_domainLines d)
        (shows_domainLines d)⟩
  case vcpupin =>
    intro uuid d known
    have hsets : ∀ set ∈ d.pins, set.count ≠ 0 :=
      fun set hset => ((printable uuid d known).sets set hset).2
    exact answers_of_printed (printer_of_known (.inr rfl) known []) (isLine_pinLines hsets)
      (showsPins_pinLines hsets)
  case pin =>
    intro uuid list d vcpu set known pinnable denoted
    have hrun : domainRun maxCpu uuid d "vcpupin"
        ["--vcpu", toString vcpu, "--cpulist", list, "--live"] st =
          (printed [], st.insert uuid (d.withPin vcpu set)) := by
      simp only [domainRun_pin, denoted, Except.toOption, if_pos pinnable]
    exact answers_of_printed ((printer_of_known (.inr rfl) known _).trans hrun)
      (List.forall_mem_nil _) trivial
  case refusal =>
    intro uuid list d vcpu known notPinnable
    obtain ⟨message, hrun, hsaid⟩ : ∃ message, domainRun maxCpu uuid d "vcpupin"
        ["--vcpu", toString vcpu, "--cpulist", list, "--live"] st = (refused message, st) ∧
          ¬ isMissingDomain message := by
      rw [domainRun_pin]
      cases (CpuSpec.compile list maxCpu.toNat).toOption with
      | none => exact ⟨_, rfl, by decide⟩
      | some set => exact ⟨_, if_neg notPinnable, by decide⟩
    exact fails_of_refused ((printer_of_known (.inr rfl) known _).trans hrun) hsaid
  case unknown =>
    intro command uuid options about missing
    refine fails_of_refused (printer_of_unknown about missing options)
      ⟨"error: ".toList, " '".toList ++ uuid.toList ++ "'".toList, ?_⟩
    rw [String.toList_append, String.toList_append]
    rfl

end VcpuPinning.Virsh
