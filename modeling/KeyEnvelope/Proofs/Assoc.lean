import KeyEnvelope.Assoc
import Mathlib.Data.List.Induction

/-!
# What association lists hold

Setting a key decides what is found under it and nothing else. A key that is new is
put behind all others, so no key comes twice. Of entries that are set one after the other,
the last one with a key is found under it.
-/

namespace KeyEnvelope.Assoc

variable {κ α : Type} [DecidableEq κ] {key other : κ} {value : α} {entries : List (κ × α)}

@[simp]
theorem get?_set_self : get? key (set key value entries) = some value := by
  induction entries with
  | nil => simp [set, get?]
  | cons entry rest inductionHypothesis =>
    by_cases same : entry.1 = key
    · simp [set, get?, same]
    · simpa [set, get?, same] using inductionHypothesis

theorem get?_set_of_ne (different : other ≠ key) :
    get? other (set key value entries) = get? other entries := by
  induction entries with
  | nil => simp [set, get?, Ne.symm different]
  | cons entry rest inductionHypothesis =>
    by_cases same : entry.1 = key
    · simp [set, get?, same, Ne.symm different]
    · simp [set, get?, same, inductionHypothesis]

theorem get?_set :
    get? other (set key value entries) = if other = key then some value else get? other entries := by
  split
  · rename_i same
    rw [same, get?_set_self]
  · rename_i different
    exact get?_set_of_ne different

@[simp]
theorem get?_erase_self : get? key (erase key entries) = none := by
  induction entries with
  | nil => rfl
  | cons entry rest inductionHypothesis =>
    by_cases same : entry.1 = key
    · simpa [erase, same] using inductionHypothesis
    · have kept : erase key (entry :: rest) = entry :: erase key rest := by simp [erase, same]
      rw [kept, get?, if_neg same, inductionHypothesis]

theorem get?_erase_of_ne (different : other ≠ key) :
    get? other (erase key entries) = get? other entries := by
  induction entries with
  | nil => rfl
  | cons entry rest inductionHypothesis =>
    by_cases same : entry.1 = key
    · simpa [erase, get?, same, Ne.symm different] using inductionHypothesis
    · have kept : erase key (entry :: rest) = entry :: erase key rest := by simp [erase, same]
      rw [kept, get?, get?, inductionHypothesis]

theorem get?_erase :
    get? other (erase key entries) = if other = key then none else get? other entries := by
  split
  · rename_i same
    rw [same, get?_erase_self]
  · rename_i different
    exact get?_erase_of_ne different

theorem nodup_erase (distinct : (entries.map Prod.fst).Nodup) :
    ((erase key entries).map Prod.fst).Nodup :=
  distinct.sublist (List.filter_sublist.map Prod.fst)

theorem set_of_get?_eq_none (absent : get? key entries = none) :
    set key value entries = entries ++ [(key, value)] := by
  induction entries with
  | nil => rfl
  | cons entry rest inductionHypothesis =>
    obtain ⟨first, found⟩ := entry
    by_cases same : first = key
    · simp [get?, same] at absent
    · simp only [get?, same, if_false] at absent
      simp [set, same, inductionHypothesis absent]

theorem get?_append_eq_none_iff {later : List (κ × α)} :
    get? key (entries ++ later) = none ↔ get? key entries = none ∧ get? key later = none := by
  induction entries with
  | nil => simp [get?]
  | cons entry rest inductionHypothesis =>
    by_cases same : entry.1 = key
    · simp [get?, same]
    · simpa [get?, same] using inductionHypothesis

theorem get?_append_of_eq_some {later : List (κ × α)} (found : get? key entries = some value) :
    get? key (entries ++ later) = some value := by
  induction entries with
  | nil => simp [get?] at found
  | cons entry rest inductionHypothesis =>
    by_cases same : entry.1 = key
    · simpa [get?, same] using found
    · simp only [get?, same, if_false] at found
      simpa [get?, same] using inductionHypothesis found

theorem mem_of_get?_eq_some (found : get? key entries = some value) : (key, value) ∈ entries := by
  induction entries with
  | nil => simp [get?] at found
  | cons entry rest inductionHypothesis =>
    obtain ⟨first, other⟩ := entry
    by_cases same : first = key
    · simp_all [get?]
    · simp only [get?, same, if_false] at found
      exact List.mem_cons_of_mem _ (inductionHypothesis found)

theorem map_fst_set :
    (set key value entries).map Prod.fst =
      if key ∈ entries.map Prod.fst then entries.map Prod.fst
      else entries.map Prod.fst ++ [key] := by
  induction entries with
  | nil => rfl
  | cons entry rest inductionHypothesis =>
    obtain ⟨first, found⟩ := entry
    by_cases same : first = key
    · simp [set, same]
    · simp only [set, same, if_false, List.map_cons, List.mem_cons, Ne.symm same, false_or,
        inductionHypothesis, List.cons_append]
      split <;> rfl

theorem nodup_set (distinct : (entries.map Prod.fst).Nodup) :
    ((set key value entries).map Prod.fst).Nodup := by
  rw [map_fst_set]
  split
  · exact distinct
  · rename_i fresh
    rw [List.nodup_append]
    refine ⟨distinct, by simp, ?_⟩
    rintro other among _ (_ | ⟨_, ⟨⟩⟩) rfl
    exact fresh among

/-- If no key comes twice, an entry is what is found under its key. -/
theorem get?_eq_some_iff_mem (distinct : (entries.map Prod.fst).Nodup) :
    get? key entries = some value ↔ (key, value) ∈ entries := by
  constructor
  · exact mem_of_get?_eq_some
  · intro among
    induction entries with
    | nil => cases among
    | cons entry rest inductionHypothesis =>
      obtain ⟨fresh, distinct⟩ := List.nodup_cons.mp distinct
      rcases List.mem_cons.mp among with rfl | later
      · simp [get?]
      · have different : entry.1 ≠ key := by
          rintro rfl
          exact fresh (List.mem_map.mpr ⟨_, later, rfl⟩)
        rw [get?, if_neg different, inductionHypothesis distinct later]

/-- An item is the last one that passes a test if none behind it does. -/
theorem find?_reverse_eq_some_iff {item : α} {items : List α} {test : α → Bool} :
    items.reverse.find? test = some item ↔
      ∃ earlier later, items = earlier ++ item :: later ∧ test item = true ∧
        ∀ other ∈ later, test other = false := by
  rw [List.find?_eq_some_iff_append]
  constructor
  · intro ⟨passes, later, earlier, split, others⟩
    refine ⟨earlier.reverse, later.reverse, ?_, passes, ?_⟩
    · rw [← List.reverse_reverse items, split]
      simp
    · intro other among
      simpa using others other (List.mem_reverse.mp among)
  · intro ⟨earlier, later, split, passes, others⟩
    refine ⟨passes, later.reverse, earlier.reverse, by simp [split], ?_⟩
    intro other among
    simpa using others other (List.mem_reverse.mp among)

theorem get?_overlay (later : List (κ × α)) :
    get? key (overlay entries later) =
      ((later.reverse.find? fun entry => entry.1 = key).map Prod.snd).or (get? key entries) := by
  induction later using List.reverseRecOn with
  | nil => rfl
  | append_singleton later entry inductionHypothesis =>
    have step : overlay entries (later ++ [entry]) =
        set entry.1 entry.2 (overlay entries later) := by
      simp [overlay]
    rw [step, List.reverse_concat, List.find?_cons]
    by_cases same : entry.1 = key
    · simp [same]
    · simp [get?_set_of_ne (Ne.symm same), same, inductionHypothesis]

theorem nodup_overlay (later : List (κ × α)) (distinct : (entries.map Prod.fst).Nodup) :
    ((overlay entries later).map Prod.fst).Nodup := by
  induction later generalizing entries with
  | nil => exact distinct
  | cons entry rest inductionHypothesis => exact inductionHypothesis (nodup_set distinct)

theorem get?_eq_none_iff : get? key entries = none ↔ key ∉ entries.map Prod.fst := by
  induction entries with
  | nil => simp [get?]
  | cons entry rest inductionHypothesis =>
    obtain ⟨first, found⟩ := entry
    by_cases same : first = key
    · simp [get?, same]
    · simpa [get?, same, Ne.symm same] using inductionHypothesis

/-- If no key comes twice, it does not matter which entry with a key counts. -/
theorem get?_overlay_of_nodup {later : List (κ × α)} (distinct : (later.map Prod.fst).Nodup) :
    get? key (overlay entries later) = (get? key later).or (get? key entries) := by
  induction later generalizing entries with
  | nil => rfl
  | cons entry rest inductionHypothesis =>
    obtain ⟨first, found⟩ := entry
    obtain ⟨fresh, distinct⟩ := List.nodup_cons.mp distinct
    have step : overlay entries ((first, found) :: rest) = overlay (set first found entries) rest :=
      rfl
    rw [step, inductionHypothesis distinct]
    by_cases same : first = key
    · subst same
      simp [get?, get?_eq_none_iff.mpr fresh]
    · simp [get?, same, get?_set_of_ne (Ne.symm same)]

/-- It does not matter whether entries are set at once or put together before. -/
theorem get?_overlay_overlay (later : List (κ × α)) :
    get? key (overlay entries (overlay [] later)) = get? key (overlay entries later) := by
  have distinct : ((overlay [] later).map Prod.fst).Nodup := nodup_overlay later (by simp)
  rw [get?_overlay_of_nodup distinct, get?_overlay, get?_overlay]
  simp [get?]

/-- Entries whose keys are new and differ from each other are put behind the others as they are. -/
theorem overlay_of_nodup {later : List (κ × α)}
    (distinct : ((entries ++ later).map Prod.fst).Nodup) :
    overlay entries later = entries ++ later := by
  induction later generalizing entries with
  | nil => exact (List.append_nil entries).symm
  | cons entry rest inductionHypothesis =>
    have absent : get? entry.1 entries = none := by
      rw [get?_eq_none_iff]
      intro among
      rw [List.map_append, List.nodup_append] at distinct
      exact distinct.2.2 _ among _ (by simp) rfl
    have step : overlay entries (entry :: rest) = overlay (set entry.1 entry.2 entries) rest := rfl
    rw [step, set_of_get?_eq_none absent, inductionHypothesis (by simpa using distinct),
      List.append_assoc, List.singleton_append]

/-- Keys that are set to one value one after the other all come to have it. -/
theorem get?_foldl_set (keys : List κ) :
    get? other (keys.foldl (fun entries key => set key value entries) entries) =
      if other ∈ keys then some value else get? other entries := by
  induction keys generalizing entries with
  | nil => rfl
  | cons key rest inductionHypothesis =>
    rw [List.foldl_cons, inductionHypothesis]
    by_cases same : other = key
    · simp [same]
    · simp [get?_set_of_ne same, same]

end KeyEnvelope.Assoc
