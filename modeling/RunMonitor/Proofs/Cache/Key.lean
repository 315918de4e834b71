import RunMonitor.Cache.Key

namespace RunMonitor.Key

theorem eq_of_append_slash {left left' right right' : List Char} (hleft : '/' ∉ left)
    (hleft' : '/' ∉ left') (h : left ++ '/' :: right = left' ++ '/' :: right') :
    left = left' ∧ right = right' := by
  induction left generalizing left' with
  | nil =>
      cases left' with
      | nil => exact ⟨rfl, (List.cons.inj h).2⟩
      | cons c rest => exact absurd ((List.cons.inj h).1 ▸ List.mem_cons_self) hleft'
  | cons c rest ih =>
      cases left' with
      | nil => exact absurd ((List.cons.inj h).1 ▸ List.mem_cons_self) hleft
      | cons c' rest' =>
          obtain ⟨rfl, htail⟩ := List.cons.inj h
          obtain ⟨rfl, hright⟩ := ih (fun member => hleft (List.mem_cons_of_mem _ member))
            (fun member => hleft' (List.mem_cons_of_mem _ member)) htail
          exact ⟨rfl, hright⟩

theorem append_inj {start ns other name name' : String} (hns : '/' ∉ ns.toList)
    (hother : '/' ∉ other.toList) :
    start ++ ns ++ "/" ++ name = start ++ other ++ "/" ++ name' ↔ ns = other ∧ name = name' := by
  constructor
  · intro h
    have hchars : ns.toList ++ '/' :: name.toList = other.toList ++ '/' :: name'.toList := by
      simpa [String.append_assoc, ← String.toList_inj] using h
    obtain ⟨hleft, hright⟩ := eq_of_append_slash hns hother hchars
    exact ⟨String.toList_inj.mp hleft, String.toList_inj.mp hright⟩
  · intro given
    obtain ⟨rfl, rfl⟩ := given
    rfl

theorem podsOf_inj {ns other job run : String} (hns : '/' ∉ ns.toList)
    (hother : '/' ∉ other.toList) : podsOf ns job = podsOf other run ↔ ns = other ∧ job = run :=
  append_inj hns hother

-- where a namespace ends cannot be seen if it has a slash itself
example : podsOf "team/nightly" "run" = podsOf "team" "nightly/run" := by decide

theorem definition_inj {ns other name name' : String} (hns : '/' ∉ ns.toList)
    (hother : '/' ∉ other.toList) :
    definition ns name = definition other name' ↔ ns = other ∧ name = name' :=
  append_inj hns hother

theorem indexEntry_inj {ns other name name' : String} (hns : '/' ∉ ns.toList)
    (hother : '/' ∉ other.toList) :
    indexEntry ns name = indexEntry other name' ↔ ns = other ∧ name = name' := by
  have h : "" ++ ns ++ "/" ++ name = "" ++ other ++ "/" ++ name' ↔ ns = other ∧ name = name' :=
    append_inj hns hother
  simpa [indexEntry] using h

theorem slash_notMem_fixed : ∀ key ∈ fixed, '/' ∉ key.toList := by decide

theorem podsOf_notMem_fixed (ns job : String) : podsOf ns job ∉ fixed := by
  intro member
  apply slash_notMem_fixed _ member
  simp [podsOf]

theorem definition_notMem_fixed (ns name : String) : definition ns name ∉ fixed := by
  intro member
  apply slash_notMem_fixed _ member
  simp [definition]

theorem runIndex_mem_fixed : runIndex ∈ fixed := by decide

theorem definition_ne_runIndex (ns name : String) : definition ns name ≠ runIndex :=
  fun h => definition_notMem_fixed ns name (h ▸ runIndex_mem_fixed)

theorem podsOf_ne_runIndex (ns job : String) : podsOf ns job ≠ runIndex :=
  fun h => podsOf_notMem_fixed ns job (h ▸ runIndex_mem_fixed)

theorem podsOf_ne_definition (ns job other name : String) :
    podsOf ns job ≠ definition other name := by
  intro h
  have hchars : (podsOf ns job).toList = (definition other name).toList :=
    congrArg String.toList h
  simp [podsOf, definition] at hchars

@[ext]
structure Address where
  ns : String
  name : String
  slashFree : '/' ∉ ns.toList

def Address.entryKey (cronJob : Address) : String := indexEntry cronJob.ns cronJob.name

theorem Address.entryKey_injective : Function.Injective entryKey := by
  intro cronJob other h
  obtain ⟨hns, hname⟩ := (indexEntry_inj cronJob.slashFree other.slashFree).mp h
  exact Address.ext hns hname

inductive Slot where
  | fixed (key : String) (member : key ∈ Key.fixed)
  | pods (run : Address)
  | definition (cronJob : Address)

def Slot.key : Slot → String
  | .fixed key _ => key
  | .pods run => podsOf run.ns run.name
  | .definition cronJob => Key.definition cronJob.ns cronJob.name

theorem Slot.key_injective : Function.Injective key := by
  intro slot other h
  cases slot with
  | fixed key member =>
      cases other with
      | fixed key' _ =>
          obtain rfl : key = key' := h
          rfl
      | pods run =>
          obtain rfl : key = podsOf run.ns run.name := h
          exact absurd member (podsOf_notMem_fixed _ _)
      | definition cronJob =>
          obtain rfl : key = Key.definition cronJob.ns cronJob.name := h
          exact absurd member (definition_notMem_fixed _ _)
  | pods run =>
      cases other with
      | fixed key member =>
          obtain rfl : podsOf run.ns run.name = key := h
          exact absurd member (podsOf_notMem_fixed _ _)
      | pods run' =>
          obtain ⟨hns, hname⟩ := (podsOf_inj run.slashFree run'.slashFree).mp h
          exact congrArg pods (Address.ext hns hname)
      | definition cronJob => exact absurd h (podsOf_ne_definition _ _ _ _)
  | definition cronJob =>
      cases other with
      | fixed key member =>
          obtain rfl : Key.definition cronJob.ns cronJob.name = key := h
          exact absurd member (definition_notMem_fixed _ _)
      | pods run => exact absurd h.symm (podsOf_ne_definition _ _ _ _)
      | definition cronJob' =>
          obtain ⟨hns, hname⟩ := (definition_inj cronJob.slashFree cronJob'.slashFree).mp h
          exact congrArg definition (Address.ext hns hname)

/-- What is only looked up is kept under these keys. -/
def IsLookup (key : String) : Prop := key = runIndex ∨ ∃ ns name, key = definition ns name

end RunMonitor.Key
