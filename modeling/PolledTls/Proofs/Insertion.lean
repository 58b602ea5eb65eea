import Mathlib.Data.Finset.Card
import Mathlib.Data.Finset.Dedup
import PolledTls.Config

/-!
Options after any inserts. A name has one place, that of its first insert, and one value, that of
its last; whatever options can be asked follows from the inserts alone.
-/
namespace PolledTls.Options

variable {options : Options} {name : String} {value : Options.Value}
  {entries : List (String × Options.Value)}

/-- The names in the order in which they are kept. -/
def names (options : Options) : List String :=
  options.toList.map (·.1)

/-- What comes of inserts made one after the other where there were no options. -/
def ofInserts (inserts : List (String × Options.Value)) : Options :=
  inserts.foldl (fun options entry => options.insert entry.1 entry.2) empty

/-- What was inserted last under a name. -/
def lastOf (inserts : List (String × Options.Value)) (name : String) : Option Options.Value :=
  inserts.reverse.lookup name

theorem lastOf_eq_none_iff (inserts : List (String × Options.Value)) (name : String) :
    lastOf inserts name = none ↔ name ∉ inserts.map (·.1) := by
  rw [lastOf, List.lookup_eq_none_iff]
  simp only [List.mem_reverse, bne_iff_ne, List.mem_map, not_exists, not_and]
  exact forall₂_congr fun entry member => ne_comm

theorem ofInserts_concat (inserts : List (String × Options.Value))
    (entry : String × Options.Value) :
    ofInserts (inserts ++ [entry]) = (ofInserts inserts).insert entry.1 entry.2 :=
  List.foldl_concat ..

theorem lastOf_concat (inserts : List (String × Options.Value)) (entry : String × Options.Value)
    (name : String) :
    lastOf (inserts ++ [entry]) name =
      if entry.1 = name then some entry.2 else lastOf inserts name := by
  rw [lastOf, List.reverse_concat, List.lookup_cons, lastOf]
  by_cases same : entry.1 = name
  · rw [if_pos same, same, beq_self_eq_true]
  · rw [if_neg same, beq_false_of_ne (Ne.symm same)]

/-- The value of a name that is there is all that changes. -/
theorem place_of_mem (distinct : (entries.map (·.1)).Nodup) (found : name ∈ entries.map (·.1)) :
    place name value entries =
      entries.map fun entry => if entry.1 = name then (name, value) else entry := by
  induction entries with
  | nil => cases found
  | cons entry rest ih =>
      rw [List.map_cons, List.nodup_cons] at distinct
      rw [List.map_cons, place]
      by_cases here : entry.1 = name
      · have missing : name ∉ rest.map (·.1) := here ▸ distinct.1
        have kept : (rest.map fun later => if later.1 = name then (name, value) else later) =
            rest.map id :=
          List.map_congr_left fun later member =>
            if_neg fun same : later.1 = name => missing (same ▸ List.mem_map_of_mem member)
        rw [if_pos here, if_pos here, kept, List.map_id, here]
      · have later := (List.mem_cons.mp found).resolve_left (Ne.symm here)
        rw [if_neg here, if_neg here, ih distinct.2 later]

/-- The value that a name has already is put where it was. -/
theorem insert_of_get? (found : options.get? name = some value) :
    options.insert name value = options := by
  obtain ⟨entries⟩ := options
  refine congrArg mk ?_
  rw [get?] at found
  induction entries with
  | nil => cases found
  | cons entry rest ih =>
      rw [List.find?_cons] at found
      rw [place]
      by_cases here : entry.1 = name
      · rw [decide_eq_true here] at found
        rw [if_pos here, ← Option.some.inj found]
      · rw [decide_eq_false here] at found
        rw [if_neg here, ih found]

theorem get?_of_mem {entry : String × Options.Value} (distinct : options.names.Nodup)
    (member : entry ∈ options.toList) : options.get? entry.1 = some entry.2 := by
  obtain ⟨entries⟩ := options
  change (entries.map (·.1)).Nodup at distinct
  change entry ∈ entries at member
  rw [get?]
  induction entries with
  | nil => cases member
  | cons first rest ih =>
      rw [List.map_cons, List.nodup_cons] at distinct
      rw [List.find?_cons]
      rcases List.mem_cons.mp member with rfl | later
      · rw [decide_eq_true rfl]
        rfl
      · have others : first.1 ≠ entry.1 := fun same =>
          distinct.1 (same ▸ List.mem_map_of_mem later)
        rw [decide_eq_false others]
        exact ih distinct.2 later

/-- Options whose names are distinct are their names with what each stands for. -/
theorem toList_eq_names (distinct : options.names.Nodup) :
    options.toList = options.names.filterMap fun name => (options.get? name).map (name, ·) := by
  have each : ∀ entry ∈ options.toList,
      (options.get? entry.1).map (entry.1, ·) = some entry := by
    intro entry member
    rw [get?_of_mem distinct member]
    rfl
  rw [names, List.filterMap_map]
  exact (List.filterMap_some.symm.trans (List.filterMap_congr each).symm)

theorem names_insert (options : Options) (name : String) (value : Options.Value) :
    (options.insert name value).names =
      if name ∈ options.names then options.names else options.names ++ [name] := by
  split
  case isTrue found => exact names_place found
  case isFalse missing =>
    have added : (options.insert name value).toList = options.toList ++ [(name, value)] :=
      place_of_not_mem missing
    rw [names, added, List.map_append]
    rfl

theorem toList_insert (distinct : options.names.Nodup) (name : String) (value : Options.Value) :
    (options.insert name value).toList =
      if name ∈ options.names then
        options.toList.map fun entry => if entry.1 = name then (name, value) else entry
      else options.toList ++ [(name, value)] := by
  split
  case isTrue found => exact place_of_mem distinct found
  case isFalse missing => exact place_of_not_mem missing

theorem nodup_names (inserts : List (String × Options.Value)) :
    (ofInserts inserts).names.Nodup := by
  induction inserts using List.reverseRecOn with
  | nil => exact List.nodup_nil
  | append_singleton inserts entry ih =>
      rw [ofInserts_concat, names_insert]
      split
      case isTrue => exact ih
      case isFalse missing => exact List.concat_eq_append ▸ ih.concat missing

theorem names_ofInserts (inserts : List (String × Options.Value)) :
    (ofInserts inserts).names = (inserts.map (·.1)).eraseDups := by
  induction inserts using List.reverseRecOn with
  | nil => rfl
  | append_singleton inserts entry ih =>
      rw [ofInserts_concat, names_insert, List.map_append, List.eraseDups_append, ← ih]
      have there : entry.1 ∈ (ofInserts inserts).names ↔ entry.1 ∈ inserts.map (·.1) := by
        rw [ih, List.mem_eraseDups]
      split
      case isTrue found => simp [List.removeAll, there.mp found]
      case isFalse missing => simp [List.removeAll, mt there.mpr missing, List.eraseDups_cons]

theorem get?_ofInserts (inserts : List (String × Options.Value)) (name : String) :
    (ofInserts inserts).get? name = lastOf inserts name := by
  induction inserts using List.reverseRecOn with
  | nil => rfl
  | append_singleton inserts entry ih => rw [ofInserts_concat, get?_insert, ih, lastOf_concat]

/-- Options after any inserts are the names inserted, each once and in the order in which they first
came, and each with the value that came last. So a further insert changes the value of a name that
is there or adds the name at the end, and changes nothing exactly if it tells nothing new. -/
theorem inserts_keep_places (inserts : List (String × Options.Value)) :
    let options := ofInserts inserts
    let inserted := inserts.map (·.1)
    options.names.Nodup ∧
      (∀ name, name ∈ options.names ↔ name ∈ inserted) ∧
      (∀ name, options.get? name = lastOf inserts name) ∧
      (∀ name, options.get? name = none ↔ name ∉ inserted) ∧
      options.toList =
        inserted.eraseDups.filterMap (fun name => (lastOf inserts name).map (name, ·)) ∧
      options.size = inserted.toFinset.card ∧
      (∀ name value, (options.insert name value).toList =
        if name ∈ options.names then
          options.toList.map fun entry => if entry.1 = name then (name, value) else entry
        else options.toList ++ [(name, value)]) ∧
      (∀ name value, options.insert name value = options ↔ options.get? name = some value) ∧
      (∀ name value,
        (options.insert name value).insert name value = options.insert name value) ∧
      ∀ other : Options, other = options ↔ other.toList = options.toList := by
  intro options inserted
  have distinct : options.names.Nodup := nodup_names inserts
  have ordered : options.names = inserted.eraseDups := names_ofInserts inserts
  have there (name : String) : name ∈ options.names ↔ name ∈ inserted := by
    rw [ordered, List.mem_eraseDups]
  have last : ∀ name, options.get? name = lastOf inserts name := get?_ofInserts inserts
  refine ⟨distinct, there, last, ?_, ?_, ?_, toList_insert distinct, ?_, ?_, ?_⟩
  · intro name
    rw [last, lastOf_eq_none_iff]
  · rw [toList_eq_names distinct, ordered]
    simp only [last]
  · have same : options.names.toFinset = inserted.toFinset := by
      ext name
      rw [List.mem_toFinset, List.mem_toFinset, there]
    rw [← same, List.toFinset_card_of_nodup distinct, names, List.length_map]
    rfl
  · intro name value
    refine ⟨fun same => ?_, insert_of_get?⟩
    rw [← same, get?_insert, if_pos rfl]
  · intro name value
    exact insert_of_get? (by rw [get?_insert, if_pos rfl])
  · intro other
    exact ⟨congrArg toList, fun same => congrArg mk same⟩

end PolledTls.Options
