import VcpuPinning.Proofs.Agent.Positions
import VcpuPinning.Proofs.Text.Utf8
import VcpuPinning.Proofs.Virsh.Readings

/-!
# The affinity that an agent reports

The agent of a host with the virsh tool reads the pins of a domain from a table with a row for each
virtual CPU. The table is read by ascending number, without the numbers, and `pinsByVcpu` numbers
the sets anew by their position. The report of an agent (`run_collectInstance_of_printed`) has
therefore the map of the table exactly if the table leaves out no number below its last one
(`affinity_by_position`).
-/

namespace VcpuPinning.Agent

open Virsh Virsh.Output

variable {σ : Type}

/-! ## Reports -/

/-- The tool tells the state of a domain, the number of CPUs of the host and the pins of the domain,
one after the other. -/
structure Printed (s : Setup σ) (uuid word : String) (maxCpu : UInt32)
    (pins : SortedMap UInt32 CpuSet) (st st' : σ) : Prop where
  runs : ∃ st₁ st₂ vcpus,
    Prints s ["dominfo", uuid] st st₁ (fun ls =>
      Shows "State" word ls ∧ Shows "CPU(s)" (toString (vcpus : UInt32)) ls) ∧
    Prints s ["nodeinfo"] st₁ st₂ (Shows "CPU(s)" (toString maxCpu)) ∧
    Prints s ["vcpupin", uuid] st₂ st' (ShowsPins pins)
  sets : ∀ set ∈ pins.values, set.width = maxCpu.toNat ∧ set.count ≠ 0

/-- The sets of the table are numbered by their position. -/
theorem run_collectInstance_of_printed {r : Reporter σ} {s : Setup σ}
    (hr : r.hypervisor = Virsh.hypervisor s) {uuid word : String} {maxCpu : UInt32}
    {pins : SortedMap UInt32 CpuSet} {st st' : σ} (h : Printed s uuid word maxCpu pins st st') :
    (r.collectInstance uuid).run.run st =
      (.ok ⟨uuid, some r.hostName, .ofCode (stateCode word), Reporter.pinsByVcpu pins.values,
        (r.clock.run st').1⟩, (r.clock.run st').2) := by
  obtain ⟨st₁, st₂, vcpus, hinfo, hnode, htable⟩ := h.runs
  have hdomain : (r.hypervisor.domainInfo uuid).run.run st =
      (.ok ⟨uuid, stateCode word, vcpus⟩, st₁) := by
    rw [hr]
    exact run_domainInfo hinfo
  have hpins : (r.hypervisor.vcpuPins uuid).run.run st₁ = (.ok pins.values, st') := by
    rw [hr]
    exact run_vcpuPins hnode htable h.sets
  unfold Reporter.collectInstance
  exact (run_bind_ok hdomain _).trans (run_bind_ok hpins _)

/-- The agent reports the first set of a table under zero, the next one under one, and so on. That is
the map that the table shows exactly if its numbers are those from zero on, without a gap. -/
theorem affinity_by_position {r : Reporter σ} {s : Setup σ}
    (driven : r.hypervisor = Virsh.hypervisor s) {uuid word : String} {maxCpu : UInt32}
    {pins : SortedMap UInt32 CpuSet} {st st' : σ}
    (printed : Printed s uuid word maxCpu pins st st') :
    ∃ i st'', (r.collectInstance uuid).run.run st = (.ok i, st'') ∧
      (∀ v, i.cpuMappings.get? v = pins.values[v.toNat]?) ∧
      (i.cpuMappings = pins ↔ ∀ v, v ∈ pins.keys ↔ v.toNat < pins.values.length) :=
  ⟨_, _, run_collectInstance_of_printed driven printed,
    Reporter.get?_pinsByVcpu (Reporter.length_values_le pins), Reporter.pinsByVcpu_values_eq_iff pins⟩

/-! ## Two tables -/

/-- What a tool prints about a running domain on a host with four CPUs, with a table of its pins. -/
def scriptedOutput (table : String) : List String → String
  | ["nodeinfo"] => "CPU(s): 4\n"
  | ["dominfo", _] => "State: running\nCPU(s): 2\n"
  | _ => table

/-- A tool with one table of pins. -/
def scripted (table : String) : Setup Unit where
  shell args _ := (.exited 0 (Text.Utf8.encode (scriptedOutput table (args.drop 2))) [], ())
  uri := "test:///default"
  timeout := .ofSeconds 30

/-- The agent of the host with the tool. -/
def scriptedReporter (table : String) : Reporter Unit where
  hypervisor := Virsh.hypervisor (scripted table)
  link :=
    { reconcileHost := fun _ _ => pure (.error (.transport .reconcileHost "refused"))
      reconcileInstances := fun _ _ _ => pure (.error (.transport .reconcileInstances "refused"))
      reconcileInstance := fun _ _ _ => pure (.error (.transport .reconcileInstance "refused")) }
  clock := pure 0
  hostName := "node-1"

theorem prints_scripted {table : String} {args : List String} {layout : List Line → Prop}
    (hnul : ∀ a ∈ "test:///default" :: args, '\x00' ∉ a.toList)
    (h : layout (linesOf (scriptedOutput table args))) :
    Prints (scripted table) args () () layout := by
  refine .of_shell hnul rfl ?_
  rwa [Text.Utf8.decodeLossy_encode]

theorem printed_scripted {table : String} {pins : SortedMap UInt32 CpuSet}
    (hpins : ShowsPins pins (linesOf table))
    (hsets : ∀ set ∈ pins.values, set.width = 4 ∧ set.count ≠ 0) :
    Printed (scripted table) "vm-1" "running" 4 pins () () where
  runs := by
    have hinfo : linesOf (scriptedOutput table ["dominfo", "vm-1"]) =
        ["State: running".toList, "CPU(s): 2".toList] := by
      change linesOf "State: running\nCPU(s): 2\n" = _
      decide
    have hnode : linesOf (scriptedOutput table ["nodeinfo"]) = ["CPU(s): 4".toList] := by
      change linesOf "CPU(s): 4\n" = _
      decide
    refine ⟨(), (), 2, prints_scripted (by decide) ?_, prints_scripted (by decide) ?_,
      prints_scripted (by decide) hpins⟩
    · rw [hinfo]
      exact ⟨.of_cut (by decide),
        .skip (by decide) (.of_cut (by decide))⟩
    · rw [hnode]
      exact .of_cut (by decide)
  sets := hsets

/-- The CPUs zero and one, and the CPUs two and three. -/
def halves : CpuSet × CpuSet :=
  (⟨[true, true, false, false]⟩, ⟨[false, false, true, true]⟩)

/-- A table with a heading, a rule and two rows. -/
theorem showsPins_of_two {heading rule first second : Line} {a b : UInt32 × CpuSet}
    {pins : SortedMap UInt32 CpuSet} (hheading : (Text.trim heading).head? = some 'V')
    (hrule : (Text.trim rule).head? = some '-')
    (ha : Text.trim first = Text.Numeral.text a.1.toNat ++ ':' :: ([' '] ++ a.2.cpulist.toList))
    (hb : Text.trim second = Text.Numeral.text b.1.toNat ++ ':' :: ([' '] ++ b.2.cpulist.toList))
    (h : [a, b].Perm pins.entries) : ShowsPins pins [heading, rule, first, second] :=
  ⟨[a, b], .heading (isHeading_of_head hheading rfl (by decide)) <|
    .heading (isHeading_of_head hrule rfl (by decide)) <|
    .row (isRow_colon 1 ha) <| .row (isRow_colon 1 hb) .nil, h⟩

/-- The rows of two virtual CPUs, the later one first, are reported as they are printed. -/
theorem affinity_by_position_of_two :
    let table := "VCPU: CPU Affinity\n-------\n   1: 2-3\n   0: 0-1\n"
    let pins : SortedMap UInt32 CpuSet := .ofList [(0, halves.1), (1, halves.2)]
    ShowsPins pins (linesOf table) ∧
      ∃ i st, ((scriptedReporter table).collectInstance "vm-1").run.run () = (.ok i, st) ∧
        i.cpuMappings = pins := by
  intro table pins
  have hpins : ShowsPins pins (linesOf table) := by
    have hlines : linesOf table = ["VCPU: CPU Affinity".toList, "-------".toList,
        "   1: 2-3".toList, "   0: 0-1".toList] := by decide
    have hperm : [(1, halves.2), (0, halves.1)].Perm pins.entries := .swap ..
    rw [hlines]
    exact showsPins_of_two rfl rfl (by decide) (by decide) hperm
  have hkeys : pins.keys = (List.range 2).map .ofNat := by decide
  have hlen : pins.values.length = 2 := by decide
  obtain ⟨i, st, hr, -, hiff⟩ := affinity_by_position (r := scriptedReporter table) rfl
    (printed_scripted hpins (by decide))
  refine ⟨hpins, i, st, hr, hiff.2 fun v => ?_⟩
  rw [hkeys, hlen, Reporter.mem_map_range_iff (by decide)]

/-- The rows of the virtual CPUs zero and two are reported under zero and one. -/
theorem affinity_renumbered :
    let table := "VCPU: CPU Affinity\n-------\n   0: 0-1\n   2: 2-3\n"
    let pins : SortedMap UInt32 CpuSet := .ofList [(0, halves.1), (2, halves.2)]
    ShowsPins pins (linesOf table) ∧
      ∃ i st, ((scriptedReporter table).collectInstance "vm-1").run.run () = (.ok i, st) ∧
        i.cpuMappings ≠ pins ∧ i.cpuMappings = .ofList [(0, halves.1), (1, halves.2)] := by
  intro table pins
  have hpins : ShowsPins pins (linesOf table) := by
    have hlines : linesOf table = ["VCPU: CPU Affinity".toList, "-------".toList,
        "   0: 0-1".toList, "   2: 2-3".toList] := by decide
    have hperm : [(0, halves.1), (2, halves.2)].Perm pins.entries := .refl _
    rw [hlines]
    exact showsPins_of_two rfl rfl (by decide) (by decide) hperm
  have hpos : Reporter.pinsByVcpu pins.values = .ofList [(0, halves.1), (1, halves.2)] := by decide
  refine ⟨hpins, _, _, run_collectInstance_of_printed rfl (printed_scripted hpins (by decide)), ?_,
    hpos⟩
  rw [hpos]
  decide

end VcpuPinning.Agent
