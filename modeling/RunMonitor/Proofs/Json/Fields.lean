import RunMonitor.Json.Fields
import RunMonitor.Proofs.Json.Scan
import RunMonitor.Proofs.SortedMap
import RunMonitor.Proofs.Time.Text

namespace RunMonitor.Json

theorem exists_of_mapM {α β : Type} {read? : β → Option α} {values : List β}
    {results : List α} (h : values.mapM read? = some results) {result : α}
    (member : result ∈ results) : ∃ json, read? json = some result := by
  induction values generalizing results with
  | nil =>
      cases h
      cases member
  | cons json rest ih =>
      simp only [List.mapM_cons, Option.bind_eq_bind, Option.bind_eq_some_iff] at h
      obtain ⟨first, hfirst, others, hothers, heq⟩ := h
      cases heq
      rcases List.mem_cons.mp member with rfl | member
      · exact ⟨json, hfirst⟩
      · exact ih hothers member

theorem exists_of_optional? {α : Type} {read? : Json → Option α} {fields : Fields}
    {key : String} {value : α} (h : optional? fields key read? = some (some value)) :
    ∃ json, read? json = some value := by
  obtain ⟨values, hvalues, heq⟩ := Option.bind_eq_some_iff.mp h
  have hlast : values.getLast? = some (some value) :=
    Option.join_eq_some_iff.mp (Option.some.inj heq)
  obtain ⟨json, hjson⟩ := exists_of_mapM hvalues (List.mem_of_getLast? hlast)
  unfold nullable? at hjson
  split at hjson
  · cases hjson
  · obtain ⟨_, hread, heq⟩ := Option.map_eq_some_iff.mp hjson
    exact ⟨_, Option.some.inj heq ▸ hread⟩

variable {α : Type} {read? : Json → Option α} {write : α → Json} {cut : α → α}

/-- The value is written as text and read back but for what is cut off. -/
structure Kept (read? : Json → Option α) (write : α → Json) (cut : α → α) (value : α) : Prop where
  plain : (write value).isPlain = true
  ne_null : write value ≠ .null
  read : read? (write value) = some (cut value)

def Keeps (read? : Json → Option α) (write : α → Json) (cut : α → α) : Prop :=
  ∀ json value, read? json = some value → Kept read? write cut value

def KeptIfAny (read? : Json → Option α) (write : α → Json) (cut : α → α) (value : Option α) :
    Prop :=
  ∀ a ∈ value, Kept read? write cut a

theorem kept_str (text : String) : Kept str? .str id text := ⟨rfl, nofun, rfl⟩

theorem keeps_str : Keeps str? .str id := fun _ text _ => kept_str text

theorem kept_bool (value : Bool) : Kept bool? .bool id value := ⟨rfl, nofun, rfl⟩

theorem keeps_bool : Keeps bool? .bool id := fun _ value _ => kept_bool value

theorem keeps_intIn {low high : Int} (hlow : Fits low) (hhigh : Fits high) :
    Keeps (intIn? low high) .int id := by
  intro json value h
  cases json with
  | int number =>
      simp only [intIn?, Option.ite_none_right_eq_some, Option.some.injEq] at h
      obtain ⟨hrange, rfl⟩ := h
      have hfits : Fits number :=
        ⟨Int.le_trans hlow.1 hrange.1, Int.lt_of_le_of_lt hrange.2 hhigh.2⟩
      exact ⟨decide_eq_true hfits, nofun, if_pos hrange⟩
  | _ => cases h

theorem keeps_int32 : Keeps int32? .int id := keeps_intIn (by decide) (by decide)

theorem keeps_int64 : Keeps int64? .int id := keeps_intIn (by decide) (by decide)

theorem keeps_instant : Keeps instant? (fun t => .str t.wholeText) Instant.truncate := by
  intro json t h
  simp only [instant?, Option.bind_eq_bind, Option.bind_eq_some_iff] at h
  obtain ⟨text, -, htext⟩ := h
  refine ⟨rfl, nofun, ?_⟩
  rw [instant?, str?, Option.bind_eq_bind, Option.bind_some,
    Instant.ofText?_wholeText (Instant.isReadable_of_ofText? htext)]

theorem mapM_map {β γ : Type} {read? : β → Option γ} {write : α → β} {cut : α → γ} {values : List α}
    (h : ∀ value ∈ values, read? (write value) = some (cut value)) :
    (values.map write).mapM read? = some (values.map cut) := by
  induction values with
  | nil => rfl
  | cons value rest ih =>
      rw [List.map_cons, List.mapM_cons, h value List.mem_cons_self,
        ih fun other member => h other (List.mem_cons_of_mem _ member)]
      rfl

theorem arePlain_map {values : List α} (h : ∀ value ∈ values, (write value).isPlain = true) :
    arePlain (values.map write) = true := by
  induction values with
  | nil => rfl
  | cons value rest ih =>
      rw [List.map_cons, arePlain, h value List.mem_cons_self,
        ih fun other member => h other (List.mem_cons_of_mem _ member)]
      rfl

theorem fieldsPlain_map {entries : List (String × α)}
    (h : ∀ e ∈ entries, (write e.2).isPlain = true) :
    fieldsPlain (entries.map fun e => (e.1, write e.2)) = true := by
  induction entries with
  | nil => rfl
  | cons e rest ih =>
      rw [List.map_cons, fieldsPlain, h e List.mem_cons_self,
        ih fun other member => h other (List.mem_cons_of_mem _ member)]
      rfl

theorem Keeps.listOf (h : Keeps read? write cut) :
    Keeps (listOf? read?) (ofList write) (List.map cut) := by
  intro json values hread
  simp only [listOf?, Option.bind_eq_bind, Option.bind_eq_some_iff] at hread
  obtain ⟨items, -, hitems⟩ := hread
  have hkept : ∀ value ∈ values, Kept read? write cut value := by
    intro value member
    obtain ⟨json, hjson⟩ := exists_of_mapM hitems member
    exact h json value hjson
  refine ⟨arePlain_map fun value member => (hkept value member).plain, nofun, ?_⟩
  rw [listOf?, ofList, arr?, Option.bind_eq_bind, Option.bind_some,
    mapM_map fun value member => (hkept value member).read]

theorem Keeps.mapOf (h : Keeps read? write id) : Keeps (mapOf? read?) (ofMap write) id := by
  intro json m hread
  simp only [mapOf?, Option.bind_eq_bind, Option.bind_eq_some_iff] at hread
  obtain ⟨fields, -, entries, hentries, heq⟩ := hread
  obtain rfl := Option.some.inj heq
  have hkept : ∀ e ∈ (SortedMap.ofList entries).entries, Kept read? write id e.2 := by
    intro e member
    obtain ⟨field, hfield⟩ := exists_of_mapM hentries (SortedMap.mem_of_mem_ofList member)
    obtain ⟨value, hvalue, rfl⟩ := Option.map_eq_some_iff.mp hfield
    exact h field.2 value hvalue
  refine ⟨fieldsPlain_map fun e member => (hkept e member).plain, nofun, ?_⟩
  have hback : ∀ e ∈ (SortedMap.ofList entries).entries,
      ((read? (write e.2)).map fun value => (e.1, value)) = some (id e) := by
    intro e member
    rw [(hkept e member).read]
    rfl
  rw [mapOf?, ofMap, obj?, Option.bind_eq_bind, Option.bind_some, mapM_map hback, List.map_id]
  exact congrArg some (SortedMap.ofList_entries _)

theorem Keeps.optional (h : Keeps read? write cut) {fields : Fields} {key : String}
    {value : Option α} (hread : optional? fields key read? = some value) :
    KeptIfAny read? write cut value := by
  intro a ha
  obtain ⟨json, hjson⟩ := exists_of_optional? (hread.trans (congrArg some ha))
  exact h json a hjson

theorem Keeps.orDefault (h : Keeps read? write cut) {fields : Fields} {key : String}
    {value default : α} (hdefault : Kept read? write cut default)
    (hread : orDefault? fields key read? default = some value) : Kept read? write cut value := by
  simp only [orDefault?, Option.bind_eq_bind, Option.bind_eq_some_iff] at hread
  obtain ⟨found, hfound, heq⟩ := hread
  obtain rfl := Option.some.inj heq
  cases found with
  | none => exact hdefault
  | some a => exact h.optional hfound a rfl

def ArePlain : List (String × Option Json) → Prop
  | [] => True
  | (_, value) :: rest => (∀ json ∈ value, json.isPlain = true) ∧ ArePlain rest

theorem isPlain_present {fields : List (String × Option Json)} (h : ArePlain fields) :
    (present fields).isPlain = true := by
  induction fields with
  | nil => rfl
  | cons field rest ih =>
      obtain ⟨key, value⟩ := field
      cases value with
      | none => exact ih h.2
      | some json =>
          exact Bool.and_eq_true_iff.mpr ⟨h.1 json rfl, ih h.2⟩

theorem KeptIfAny.plain {value : Option α} (h : KeptIfAny read? write cut value) :
    ∀ json ∈ value.map write, json.isPlain = true := by
  intro json hjson
  obtain ⟨a, ha, rfl⟩ := Option.map_eq_some_iff.mp hjson
  exact (h a ha).plain

theorem Kept.ifAny {value : α} (h : Kept read? write cut value) :
    KeptIfAny read? write cut (some value) := by
  intro a ha
  obtain rfl := Option.some.inj ha
  exact h

section Present

variable {fields : List (String × Option Json)}

theorem valuesOf_present (key : String) :
    valuesOf (fields.filterMap fun f => f.2.map fun json => (f.1, json)) key =
      (fields.filter fun f => f.1 = key).filterMap (·.2) := by
  induction fields with
  | nil => rfl
  | cons field rest ih =>
      obtain ⟨name, value⟩ := field
      cases value with
      | none => by_cases hname : name = key <;> simp_all
      | some json => by_cases hname : name = key <;> simp_all [valuesOf]

theorem optional?_present (key : String) {value : Option α} (h : KeptIfAny read? write cut value)
    (hfield : (fields.filter fun f => f.1 = key) = [(key, value.map write)]) :
    optional? (fields.filterMap fun f => f.2.map fun json => (f.1, json)) key read? =
      some (value.map cut) := by
  rw [optional?, valuesOf_present, hfield]
  cases value with
  | none => rfl
  | some a =>
      have hkept := h a rfl
      have hnullable : nullable? read? (write a) = some (some (cut a)) := by
        rw [nullable?, hkept.read]
        · rfl
        · exact hkept.ne_null
      simp [hnullable]

theorem orDefault?_present (key : String) {value default : α} (h : Kept read? write cut value)
    (hfield : (fields.filter fun f => f.1 = key) = [(key, some (write value))]) :
    orDefault? (fields.filterMap fun f => f.2.map fun json => (f.1, json)) key read? default =
      some (cut value) := by
  rw [orDefault?, optional?_present key h.ifAny hfield]
  rfl

theorem constant?_present (key : String) {expected : String}
    (hfield : (fields.filter fun f => f.1 = key) = [(key, some (.str expected))]) :
    constant? (fields.filterMap fun f => f.2.map fun json => (f.1, json)) key expected =
      some () := by
  rw [constant?, valuesOf_present, hfield]
  simp [str?]

end Present

end RunMonitor.Json
