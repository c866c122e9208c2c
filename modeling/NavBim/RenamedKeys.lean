import NavBim.OrderedDict

namespace NavBim

/-!
# Dictionaries with renamed keys

Renaming the keys one to one commutes with all operations of a dictionary, and
with sorting if the names keep their order.
-/

namespace OrderedDict

variable
  {Key Other Value : Type}

/-- Another key for each value. -/
def mapKeys
    (rename : Key ↪ Other)
    (dict : OrderedDict Key Value) : OrderedDict Other Value where
  entries := dict.entries.map (Prod.map rename id)
  distinct := by
    rw [List.map_map]
    have renamed : Prod.fst ∘ Prod.map rename (id : Value → Value) =
        rename ∘ Prod.fst :=
      rfl
    rw [renamed, ← List.map_map]
    exact dict.distinct.map rename.injective

/-- A dictionary is the list of its entries. -/
theorem eq_of_entries
    {first second : OrderedDict Key Value}
    (same : first.entries = second.entries) :
    first = second := by
  cases first
  cases second
  cases same
  rfl

variable
  {rename : Key ↪ Other}
  (dict : OrderedDict Key Value)

@[simp] theorem mapKeys_empty :
    (empty : OrderedDict Key Value).mapKeys rename = empty :=
  rfl

theorem keys_mapKeys :
    (dict.mapKeys rename).keys = dict.keys.map rename := by
  rw [keys, keys, mapKeys, List.map_map, List.map_map]
  rfl

theorem mem_keys_mapKeys
    (key : Key) :
    rename key ∈ (dict.mapKeys rename).keys ↔ key ∈ dict.keys := by
  rw [keys_mapKeys, List.mem_map_of_injective rename.injective]

variable [DecidableEq Key] [DecidableEq Other]

@[simp] theorem get?_mapKeys
    (key : Key) :
    (dict.mapKeys rename).get? (rename key) = dict.get? key := by
  have sameKey : ((fun entry : Other × Value => decide (entry.1 = rename key)) ∘
      Prod.map rename id) = fun entry => decide (entry.1 = key) := by
    funext entry
    exact decide_eq_decide.mpr rename.injective.eq_iff
  rw [get?, mapKeys, List.find?_map, sameKey, Option.map_map]
  rfl

theorem mapKeys_set
    (key : Key)
    (value : Value) :
    (dict.set key value).mapKeys rename =
      (dict.mapKeys rename).set (rename key) value := by
  apply eq_of_entries
  show (setEntries key value dict.entries).map _ =
    setEntries (rename key) value (dict.entries.map _)
  induction dict.entries with
  | nil =>
      rfl
  | cons entry rest inductionHypothesis =>
      rw [setEntries, List.map_cons, setEntries]
      by_cases isKey : entry.1 = key
      · have sameKey : (Prod.map rename id entry).1 = rename key :=
          congrArg rename isKey
        rw [if_pos isKey, if_pos sameKey]
        rfl
      · have otherKey : (Prod.map rename id entry).1 ≠ rename key :=
          fun same => isKey (rename.injective same)
        rw [if_neg isKey, if_neg otherKey, List.map_cons, inductionHypothesis]

theorem mapKeys_pop
    (key : Key) :
    (dict.pop key).mapKeys rename =
      (dict.mapKeys rename).pop (rename key) := by
  apply eq_of_entries
  show (dict.entries.filter _).map _ = (dict.entries.map _).filter _
  rw [List.filter_map]
  congr 2
  funext entry
  exact decide_eq_decide.mpr rename.injective.ne_iff.symm

end OrderedDict

theorem OrderedDict.mapKeys_sorted
    {Key Other Value : Type}
    [LinearOrder Key]
    [LinearOrder Other]
    (rename : Key ↪o Other)
    (dict : OrderedDict Key Value) :
    dict.sorted.mapKeys rename.toEmbedding =
      (dict.mapKeys rename.toEmbedding).sorted := by
  apply eq_of_entries
  apply List.map_insertionSort
  intro first _ second _
  exact rename.le_iff_le.symm

end NavBim
