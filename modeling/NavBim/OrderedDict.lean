import Mathlib.Data.List.Sort
import Mathlib.Data.List.Nodup
import Mathlib.Tactic

namespace NavBim

/-!
# Dictionaries in the order of insertion

A dictionary has each key once.  Setting a key that is there replaces its value
in place; a new key goes to the end.
-/

structure OrderedDict (Key Value : Type) where
  entries : List (Key × Value)
  distinct : (entries.map Prod.fst).Nodup

namespace OrderedDict

variable {Key Value : Type}

def empty : OrderedDict Key Value where
  entries := []
  distinct := List.nodup_nil

def keys (dict : OrderedDict Key Value) : List Key :=
  dict.entries.map Prod.fst

theorem eq_of_mem
    {dict : OrderedDict Key Value}
    {first second : Key × Value}
    (isFirst : first ∈ dict.entries)
    (isSecond : second ∈ dict.entries)
    (same : first.1 = second.1) :
    first = second :=
  List.inj_on_of_nodup_map dict.distinct isFirst isSecond same

/-- Another value under each key. -/
def mapValues
    {Other : Type}
    (change : Value → Other)
    (dict : OrderedDict Key Value) : OrderedDict Key Other where
  entries := dict.entries.map fun entry => (entry.1, change entry.2)
  distinct := by
    rw [List.map_map]
    exact dict.distinct

theorem keys_mapValues
    {Other : Type}
    (change : Value → Other)
    (dict : OrderedDict Key Value) :
    (dict.mapValues change).keys = dict.keys := by
  rw [keys, mapValues, List.map_map]
  rfl

section Set

variable [DecidableEq Key]

variable
  (dict : OrderedDict Key Value)

def get?
    (key : Key) : Option Value :=
  (dict.entries.find? fun entry => entry.1 = key).map Prod.snd

variable
  (key : Key)

/-- The entries with a value for a key. -/
def setEntries
    (value : Value) : List (Key × Value) → List (Key × Value)
  | [] => [(key, value)]
  | entry :: rest =>
      if entry.1 = key then
        (key, value) :: rest
      else
        entry :: setEntries value rest

variable
  (value : Value)

theorem keys_setEntries
    (entries : List (Key × Value)) :
    (setEntries key value entries).map Prod.fst =
      if key ∈ entries.map Prod.fst then entries.map Prod.fst
      else entries.map Prod.fst ++ [key] := by
  induction entries with
  | nil => rfl
  | cons entry rest inductionHypothesis =>
      rw [setEntries]
      by_cases same : entry.1 = key
      · simp [same]
      · rw [if_neg same, List.map_cons, inductionHypothesis, List.map_cons]
        by_cases present : key ∈ rest.map Prod.fst
        · rw [if_pos present, if_pos (List.mem_cons_of_mem _ present)]
        · have absent : key ∉ entry.1 :: rest.map Prod.fst := by
            rw [List.mem_cons, not_or]
            exact ⟨Ne.symm same, present⟩
          rw [if_neg present, if_neg absent, List.cons_append]

def set
    (dict : OrderedDict Key Value)
    (key : Key)
    (value : Value) : OrderedDict Key Value where
  entries := setEntries key value dict.entries
  distinct := by
    rw [keys_setEntries]
    split
    · exact dict.distinct
    · case isFalse absent =>
      exact dict.distinct.append (List.nodup_singleton key)
        (List.disjoint_singleton.mpr absent)

theorem mem_keys_set
    (key other : Key)
    (value : Value) :
    other ∈ (dict.set key value).keys ↔ other = key ∨ other ∈ dict.keys := by
  rw [keys, set, keys_setEntries, keys]
  split
  · case isTrue present =>
    constructor
    · exact .inr
    · rintro (rfl | held)
      · exact present
      · exact held
  · rw [List.mem_append, List.mem_singleton, or_comm]

theorem mem_set
    (entry : Key × Value) :
    entry ∈ (dict.set key value).entries ↔
      entry = (key, value) ∨ entry ∈ dict.entries ∧ entry.1 ≠ key := by
  obtain ⟨entries, distinct⟩ := dict
  show entry ∈ setEntries key value entries ↔ _
  induction entries with
  | nil => simp [setEntries]
  | cons first rest inductionHypothesis =>
      rw [List.map_cons, List.nodup_cons] at distinct
      obtain ⟨fresh, later⟩ := distinct
      rw [setEntries]
      split
      · case isTrue same =>
        -- the key is not in the rest
        have apart : ∀ other ∈ rest, other.1 ≠ key := by
          intro other present isKey
          apply fresh
          rw [same, ← isKey]
          exact List.mem_map_of_mem present
        rw [List.mem_cons, List.mem_cons]
        constructor
        · rintro (isNew | present)
          · exact .inl isNew
          · exact .inr ⟨.inr present, apart entry present⟩
        · rintro (isNew | ⟨rfl | present, different⟩)
          · exact .inl isNew
          · exact absurd same different
          · exact .inr present
      · case isFalse different =>
        rw [List.mem_cons, List.mem_cons, inductionHypothesis later]
        constructor
        · rintro (rfl | isNew | ⟨present, other⟩)
          · exact .inr ⟨.inl rfl, different⟩
          · exact .inl isNew
          · exact .inr ⟨.inr present, other⟩
        · rintro (isNew | ⟨rfl | present, other⟩)
          · exact .inr (.inl isNew)
          · exact .inl rfl
          · exact .inr (.inr ⟨present, other⟩)

theorem mem_of_mem_setEntries
    {key : Key}
    {value : Value}
    {entries : List (Key × Value)}
    {entry : Key × Value}
    (present : entry ∈ setEntries key value entries) :
    entry = (key, value) ∨ entry ∈ entries := by
  induction entries with
  | nil => exact .inl (List.mem_singleton.mp present)
  | cons first rest inductionHypothesis =>
      rw [setEntries] at present
      split at present
      · rcases List.mem_cons.mp present with isNew | old
        · exact .inl isNew
        · exact .inr (List.mem_cons_of_mem _ old)
      · rcases List.mem_cons.mp present with rfl | later
        · exact .inr List.mem_cons_self
        · rcases inductionHypothesis later with isNew | old
          · exact .inl isNew
          · exact .inr (List.mem_cons_of_mem _ old)

theorem nodup_map_set
    {Label : Type}
    {dict : OrderedDict Key Value}
    {key : Key}
    {value : Value}
    (label : Value → Label)
    (different : (dict.entries.map fun entry => label entry.2).Nodup)
    (fresh : label value ∉ dict.entries.map fun entry => label entry.2) :
    ((dict.set key value).entries.map fun entry => label entry.2).Nodup := by
  obtain ⟨entries, distinct⟩ := dict
  show ((setEntries key value entries).map fun entry => label entry.2).Nodup
  simp only at different fresh
  clear distinct
  induction entries with
  | nil => exact List.nodup_singleton _
  | cons first rest inductionHypothesis =>
      rw [List.map_cons, List.nodup_cons] at different
      rw [List.map_cons, List.mem_cons, not_or] at fresh
      rw [setEntries]
      split
      · exact List.nodup_cons.mpr ⟨fresh.2, different.2⟩
      · refine List.nodup_cons.mpr
          ⟨?_, inductionHypothesis different.2 fresh.2⟩
        intro repeated
        obtain ⟨entry, present, same⟩ := List.mem_map.mp repeated
        rcases mem_of_mem_setEntries present with rfl | old
        · exact fresh.1 same
        · exact different.1 (List.mem_map.mpr ⟨entry, old, same⟩)

/-- A new key goes to the end. -/
theorem keys_set_of_not_mem
    {dict : OrderedDict Key Value}
    {key : Key}
    (absent : key ∉ dict.keys) :
    (dict.set key value).keys = dict.keys ++ [key] := by
  rw [keys, set, keys_setEntries]
  exact if_neg absent

def pop
    (dict : OrderedDict Key Value)
    (key : Key) : OrderedDict Key Value where
  entries := dict.entries.filter fun entry => entry.1 ≠ key
  distinct := dict.distinct.sublist (List.filter_sublist.map Prod.fst)

theorem keys_pop_sublist
    (key : Key) :
    (dict.pop key).keys.Sublist dict.keys :=
  List.filter_sublist.map Prod.fst

theorem mem_pop
    (entry : Key × Value) :
    entry ∈ (dict.pop key).entries ↔
      entry ∈ dict.entries ∧ entry.1 ≠ key := by
  rw [pop, List.mem_filter, decide_eq_true_eq]

theorem mem_keys_pop
    (key other : Key) :
    other ∈ (dict.pop key).keys ↔ other ∈ dict.keys ∧ other ≠ key := by
  simp only [keys, List.mem_map, mem_pop]
  constructor
  · rintro ⟨entry, ⟨isEntry, notKey⟩, rfl⟩
    exact ⟨⟨entry, isEntry, rfl⟩, notKey⟩
  · rintro ⟨⟨entry, isEntry, rfl⟩, notKey⟩
    exact ⟨entry, ⟨isEntry, notKey⟩, rfl⟩

/-- Set the keys of some entries one after the other. -/
def setAll
    (items : List (Key × Value)) : OrderedDict Key Value :=
  items.foldl (fun dict entry => dict.set entry.1 entry.2) dict

/-- Every entry comes from somewhere. -/
theorem mem_of_mem_setAll
    {items : List (Key × Value)}
    {entry : Key × Value} :
    ∀ {dict : OrderedDict Key Value}, entry ∈ (dict.setAll items).entries →
      entry ∈ items ∨ entry ∈ dict.entries := by
  induction items with
  | nil =>
      intro dict present
      exact .inr present
  | cons item rest inductionHypothesis =>
      intro dict present
      rcases inductionHypothesis present with inRest | inDict
      · exact .inl (List.mem_cons_of_mem _ inRest)
      · rcases (mem_set dict item.1 item.2 entry).mp inDict with
          isItem | ⟨old, -⟩
        · exact .inl (List.mem_cons.mpr (.inl isItem))
        · exact .inr old

/-- With different keys nothing that is set is lost, and what was there stays
unless its key is set. -/
theorem mem_setAll
    {items : List (Key × Value)}
    (different : (items.map Prod.fst).Nodup)
    (entry : Key × Value) :
    ∀ dict : OrderedDict Key Value, entry ∈ (dict.setAll items).entries ↔
      entry ∈ items ∨
        entry ∈ dict.entries ∧ entry.1 ∉ items.map Prod.fst := by
  induction items with
  | nil =>
      intro dict
      simp [setAll]
  | cons item rest inductionHypothesis =>
      intro dict
      rw [List.map_cons, List.nodup_cons] at different
      obtain ⟨fresh, later⟩ := different
      refine (inductionHypothesis later (dict.set item.1 item.2)).trans ?_
      rw [mem_set, List.mem_cons, List.map_cons, List.mem_cons, not_or]
      constructor
      · rintro (inRest | ⟨isItem | ⟨old, other⟩, absent⟩)
        · exact .inl (.inr inRest)
        · exact .inl (.inl isItem)
        · exact .inr ⟨old, other, absent⟩
      · rintro ((isItem | inRest) | ⟨old, other, absent⟩)
        · subst isItem
          exact .inr ⟨.inl rfl, fresh⟩
        · exact .inl inRest
        · exact .inr ⟨.inr ⟨old, other⟩, absent⟩

/-- The entries of another dictionary are set. -/
def update (dict other : OrderedDict Key Value) : OrderedDict Key Value :=
  dict.setAll other.entries

theorem mem_update
    (dict other : OrderedDict Key Value)
    (entry : Key × Value) :
    entry ∈ (dict.update other).entries ↔
      entry ∈ other.entries ∨ entry ∈ dict.entries ∧ entry.1 ∉ other.keys :=
  mem_setAll other.distinct entry dict

end Set

section Sorted

variable [LinearOrder Key]

def keyOrder (first second : Key × Value) : Prop :=
  first.1 ≤ second.1

instance : DecidableRel (@keyOrder Key Value _) :=
  fun first second => inferInstanceAs (Decidable (first.1 ≤ second.1))

instance : Std.Total (@keyOrder Key Value _) :=
  ⟨fun first second => le_total first.1 second.1⟩

instance : IsTrans (Key × Value) keyOrder :=
  ⟨fun _ _ _ first second => le_trans first second⟩

/-- The entries in the order of their keys. -/
def sorted (dict : OrderedDict Key Value) : OrderedDict Key Value where
  entries := dict.entries.insertionSort keyOrder
  distinct :=
    (((List.perm_insertionSort keyOrder dict.entries).map
      Prod.fst).nodup_iff).mpr dict.distinct

/-- The keys increase. -/
def Increasing (dict : OrderedDict Key Value) : Prop :=
  dict.keys.Pairwise (· < ·)

theorem increasing_empty :
    (empty : OrderedDict Key Value).Increasing :=
  List.Pairwise.nil

theorem increasing_sorted (dict : OrderedDict Key Value) :
    dict.sorted.Increasing := by
  have ordered : dict.sorted.keys.Pairwise (· ≤ ·) :=
    List.Pairwise.map Prod.fst (fun _ _ before => before)
      (List.pairwise_insertionSort keyOrder dict.entries)
  exact (ordered.and dict.sorted.distinct).imp
    fun both => lt_of_le_of_ne both.1 both.2

theorem Increasing.set
    {dict : OrderedDict Key Value}
    (increasing : dict.Increasing)
    {key : Key}
    (above : ∀ other ∈ dict.keys, other < key)
    (value : Value) :
    (dict.set key value).Increasing := by
  have absent : key ∉ dict.keys := by
    intro present
    exact lt_irrefl key (above key present)
  rw [Increasing, keys_set_of_not_mem value absent, List.pairwise_append]
  refine ⟨increasing, List.pairwise_singleton _ _, ?_⟩
  intro other held last isKey
  rw [List.mem_singleton.mp isKey]
  exact above other held

theorem Increasing.pop
    {dict : OrderedDict Key Value}
    (increasing : dict.Increasing)
    (key : Key) :
    (dict.pop key).Increasing :=
  List.Pairwise.sublist (keys_pop_sublist dict key) increasing

end Sorted

end OrderedDict

end NavBim
