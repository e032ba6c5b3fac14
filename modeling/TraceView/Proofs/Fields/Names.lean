import Mathlib.Data.List.Perm.Basic
import TraceView.Json.Basic

namespace TraceView

/-!
# Fields with different names

A look-up finds the first field of a name, and what it finds is the whole meaning of the fields
only if no name is given twice.  The fields of a decoded mapping are of this kind, because a
repeated name settles on one value, and they stay so when a field is put or erased.  The order of
such fields does not matter to a look-up.
-/

namespace Fields

variable {α : Type} {fields others : List (String × α)} {key other : String} {value : α}

/-- No name is given twice. -/
def Distinct (fields : List (String × α)) : Prop :=
  (fields.map Prod.fst).Nodup

/-- Fields with different names. -/
structure Table (α : Type) where
  fields : List (String × α)
  distinct : Distinct fields

theorem mem_of_lookup (found : fields.lookup key = some value) : (key, value) ∈ fields := by
  rcases List.lookup_eq_some_iff.mp found with ⟨before, after, same, _⟩
  rw [same]
  exact List.mem_append_right before List.mem_cons_self

theorem lookup_eq_some_iff_mem (distinct : Distinct fields) :
    fields.lookup key = some value ↔ (key, value) ∈ fields := by
  constructor
  · exact mem_of_lookup
  · intro member
    rcases List.append_of_mem member with ⟨before, after, same⟩
    refine List.lookup_eq_some_iff.mpr ⟨before, after, same, ?_⟩
    intro field earlier
    have apart : (before.map Prod.fst ++ key :: after.map Prod.fst).Nodup := by
      rw [Distinct, same, List.map_append, List.map_cons] at distinct
      exact distinct
    apply bne_iff_ne.mpr
    intro equal
    exact (List.nodup_append.mp apart).2.2 field.1 (List.mem_map_of_mem earlier) key
      List.mem_cons_self equal.symm

theorem lookup_eq_none_iff_notMem : fields.lookup key = none ↔ key ∉ fields.map Prod.fst := by
  rw [List.lookup_eq_none_iff, List.mem_map, not_exists]
  constructor
  · rintro missing field ⟨member, same⟩
    exact bne_iff_ne.mp (missing field member) same.symm
  · intro missing field member
    exact bne_iff_ne.mpr fun same => missing field ⟨member, same.symm⟩

/-- Fields that are given in another order are looked up alike. -/
theorem lookup_of_perm (distinct : Distinct fields) (same : fields.Perm others) (key : String) :
    fields.lookup key = others.lookup key := by
  have otherDistinct : Distinct others := (same.map Prod.fst).nodup_iff.mp distinct
  apply Option.ext
  intro value
  rw [lookup_eq_some_iff_mem distinct, lookup_eq_some_iff_mem otherDistinct]
  exact same.mem_iff

/-! ## Putting and erasing -/

theorem mem_put {field : String × α} (member : field ∈ put key value fields) :
    field = (key, value) ∨ field ∈ fields := by
  induction fields with
  | nil => exact Or.inl (List.mem_singleton.mp member)
  | cons first rest inductionHypothesis =>
      rcases first with ⟨name, old⟩
      by_cases same : name = key
      · rw [put, if_pos same] at member
        exact (List.mem_cons.mp member).imp_right (List.mem_cons_of_mem _)
      · rw [put, if_neg same] at member
        rcases List.mem_cons.mp member with here | later
        · exact Or.inr (List.mem_cons.mpr (Or.inl here))
        · exact (inductionHypothesis later).imp_right (List.mem_cons_of_mem _)

/-- The names after a field is put. -/
theorem mem_names_put {name : String} :
    name ∈ (put key value fields).map Prod.fst ↔ name = key ∨ name ∈ fields.map Prod.fst := by
  induction fields with
  | nil => rw [put, List.map_singleton, List.mem_singleton, List.map_nil, List.mem_nil_iff, or_false]
  | cons first rest inductionHypothesis =>
      rcases first with ⟨called, old⟩
      by_cases same : called = key
      · rw [put, if_pos same, List.map_cons, List.map_cons, List.mem_cons, List.mem_cons, same,
          ← or_assoc, or_self]
      · rw [put, if_neg same, List.map_cons, List.map_cons, List.mem_cons, List.mem_cons,
          inductionHypothesis, or_left_comm]

theorem put_of_fresh (fresh : key ∉ fields.map Prod.fst) (value : α) :
    put key value fields = fields ++ [(key, value)] := by
  induction fields with
  | nil => rfl
  | cons first rest inductionHypothesis =>
      rcases first with ⟨name, old⟩
      rw [List.map_cons, List.mem_cons, not_or] at fresh
      rw [put, if_neg (Ne.symm fresh.1), inductionHypothesis fresh.2, List.cons_append]

theorem Distinct.put (distinct : Distinct fields) (key : String) (value : α) :
    Distinct (put key value fields) := by
  induction fields with
  | nil => exact List.pairwise_singleton _ key
  | cons first rest inductionHypothesis =>
      rcases first with ⟨name, old⟩
      rcases List.nodup_cons.mp distinct with ⟨fresh, others⟩
      by_cases same : name = key
      · subst same
        rw [Fields.put, if_pos rfl]
        exact distinct
      · rw [Fields.put, if_neg same]
        refine List.nodup_cons.mpr ⟨?_, inductionHypothesis others⟩
        exact fun listed => (mem_names_put.mp listed).elim same fresh

theorem Distinct.erase (distinct : Distinct fields) (key : String) :
    Distinct (erase key fields) :=
  distinct.sublist (List.filter_sublist.map Prod.fst)

/-- Erasing one field changes no other field. -/
theorem lookup_erase_of_ne (different : other ≠ key) (fields : List (String × α)) :
    (erase key fields).lookup other = fields.lookup other := by
  induction fields with
  | nil => rfl
  | cons first rest inductionHypothesis =>
      rcases first with ⟨name, old⟩
      unfold erase at inductionHypothesis ⊢
      by_cases erased : name = key
      · have elsewhere : (other == name) = false :=
          beq_eq_false_iff_ne.mpr fun same => different (same.trans erased)
        simp only [List.filter_cons, erased, bne_self_eq_false, Bool.false_eq_true, if_false,
          inductionHypothesis]
        rw [← erased, List.lookup_cons, elsewhere]
      · simp only [List.filter_cons, bne_iff_ne.mpr erased, if_true, List.lookup_cons,
          inductionHypothesis]

/-! ## Settled fields -/

theorem distinct_settle (fields : List (String × α)) : Distinct (settle fields) :=
  List.foldlRecOn fields _ List.nodup_nil fun _ distinct field _ => distinct.put field.1 field.2

theorem mem_settle {field : String × α} (member : field ∈ settle fields) : field ∈ fields := by
  have within : forall field, field ∈ settle fields -> field ∈ fields := by
    refine List.foldlRecOn (motive := fun settled : List (String × α) =>
      forall field, field ∈ settled -> field ∈ fields) fields _
      (fun _ impossible => (List.not_mem_nil impossible).elim) ?_
    intro settled within given listed field member
    rcases mem_put member with here | earlier
    · rw [here]
      exact listed
    · exact within field earlier
  exact within field member

theorem foldl_put_of_distinct {settled : List (String × α)}
    (distinct : Distinct (settled ++ fields)) :
    fields.foldl (fun settled field => put field.1 field.2 settled) settled = settled ++ fields := by
  induction fields generalizing settled with
  | nil => exact (List.append_nil settled).symm
  | cons first rest inductionHypothesis =>
      have fresh : first.1 ∉ settled.map Prod.fst := by
        rw [Distinct, List.map_append] at distinct
        intro listed
        exact (List.nodup_append.mp distinct).2.2 first.1 listed first.1 List.mem_cons_self rfl
      have moved : settled ++ first :: rest = settled ++ [first] ++ rest :=
        (List.append_assoc settled [first] rest).symm
      rw [moved] at distinct ⊢
      rw [List.foldl_cons, put_of_fresh fresh]
      exact inductionHypothesis distinct

/-- Fields without a name that is repeated are settled already. -/
theorem settle_of_distinct (distinct : Distinct fields) : settle fields = fields :=
  @foldl_put_of_distinct _ fields [] distinct

end Fields

/-! ## Values of documents -/

namespace Json

theorem mem_memberValues {members : List (String × Json)} {name : String} {value : Value}
    (listed : (name, value) ∈ memberValues .decimal members) :
    Exists fun member : Json => (name, member) ∈ members ∧ value = member.exactValue := by
  induction members with
  | nil => cases listed
  | cons first rest inductionHypothesis =>
      rcases first with ⟨called, member⟩
      rcases List.mem_cons.mp listed with here | later
      · cases here
        exact ⟨member, List.mem_cons_self, rfl⟩
      · rcases inductionHypothesis later with ⟨found, given, same⟩
        exact ⟨found, List.mem_cons_of_mem _ given, same⟩

theorem eq_object_of_exactValue {tree : Json} {fields : List (String × Value)}
    (mapping : tree.exactValue = .map fields) :
    Exists fun members : List (String × Json) => tree = .object members := by
  cases tree with
  | object members => exact ⟨members, rfl⟩
  | _ => cases mapping

/-- A mapping in a document has different names, and each of its fields is the value of a
member. -/
theorem exactValue_eq_map {tree : Json} {fields : List (String × Value)}
    (mapping : tree.exactValue = .map fields) :
    Fields.Distinct fields ∧ forall name value, fields.lookup name = some value ->
      Exists fun member : Json => value = member.exactValue := by
  cases tree with
  | object members =>
      cases mapping
      refine ⟨Fields.distinct_settle _, ?_⟩
      intro name value found
      rcases mem_memberValues (Fields.mem_settle (Fields.mem_of_lookup found)) with
        ⟨member, _, same⟩
      exact ⟨member, same⟩
  | _ => cases mapping

end Json

end TraceView
