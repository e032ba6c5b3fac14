import Mathlib.Data.Prod.Lex
import TraceView.Proofs.Sorting.Runs
import TraceView.Time.Timestamp

namespace TraceView.Timestamp

/-!
# Instants on two clocks

The instants of one clock are a line: they are ordered like their nanoseconds, and every number of
nanoseconds leads from each instant to one other.  Instants of two clocks are different, and nothing else
that is asked of both has an answer.  So a list can be sorted exactly if all its instants are of one
clock.  Whichever way a sort goes, one that never has to compare two clocks puts all of either clock
first, so the list has one clock only.
-/

variable {a b c : Timestamp}

/-! ## Comparisons -/

/-- The answers of all comparisons of two instants that are in some order. -/
structure Compared (a b : Timestamp) (order : Ordering) : Prop where
  lt : a.lt b = .ok order.isLT
  le : a.le b = .ok order.isLE
  eq : decide (a = b) = order.isEq
  ne : decide (a ≠ b) = order.isNe
  ge : a.ge b = .ok order.isGE
  gt : a.gt b = .ok order.isGT

/-- Two instants that have neither an order nor a difference. -/
structure Apart (a b : Timestamp) : Prop where
  eq : decide (a = b) = false
  ne : decide (a ≠ b) = true
  lt : a.lt b = .error (.mixed a.domain b.domain)
  le : a.le b = .error (.mixed a.domain b.domain)
  ge : a.ge b = .error (.mixed a.domain b.domain)
  gt : a.gt b = .error (.mixed a.domain b.domain)
  sub : a.sub b = .error (.mixed a.domain b.domain)

theorem together_of_eq (same : a.domain = b.domain) :
    together a b = .ok (a.nanoseconds, b.nanoseconds) :=
  if_pos same

theorem together_of_ne (other : a.domain ≠ b.domain) :
    together a b = .error (.mixed a.domain b.domain) :=
  if_neg other

theorem lt_of_eq (same : a.domain = b.domain) :
    a.lt b = .ok (decide (a.nanoseconds < b.nanoseconds)) := by
  rw [lt, together_of_eq same]
  rfl

theorem eq_iff (same : a.domain = b.domain) : a = b ↔ a.nanoseconds = b.nanoseconds := by
  rw [mk.injEq]
  exact and_iff_right same

/-- On one clock, all comparisons are about the nanoseconds. -/
theorem compared (same : a.domain = b.domain) :
    Compared a b (compare a.nanoseconds b.nanoseconds) := by
  rcases lt_trichotomy a.nanoseconds b.nanoseconds with earlier | here | later
  · rw [compare_lt_iff_lt.mpr earlier]
    constructor <;> simp [le, ge, gt, lt_of_eq same, eq_iff same, Except.map, earlier, earlier.ne]
  · rw [compare_eq_iff_eq.mpr here]
    constructor <;> simp [le, ge, gt, lt_of_eq same, eq_iff same, Except.map, here]
  · rw [compare_gt_iff_gt.mpr later]
    constructor <;>
      simp [le, ge, gt, lt_of_eq same, eq_iff same, Except.map, later.not_gt, later.ne']

/-- The answers tell the order. -/
theorem Compared.unique {order other : Ordering} (compared : Compared a b order)
    (alsoCompared : Compared a b other) : order = other := by
  have earlier : order.isLT = other.isLT :=
    Except.ok.inj (compared.lt.symm.trans alsoCompared.lt)
  have equal : order.isEq = other.isEq := compared.eq.symm.trans alsoCompared.eq
  cases order <;> cases other <;> simp_all

theorem apart (other : a.domain ≠ b.domain) : Apart a b := by
  have different : a ≠ b := fun equal => other (congrArg domain equal)
  constructor <;>
    simp [lt, le, ge, gt, sub, together_of_ne other, different, Except.map]

/-! ## Chains of comparisons -/

/-- A comparison that says yes to instants of one clock whose nanoseconds are related. -/
def Means (comparison : Timestamp -> Timestamp -> Except TimestampError Bool)
    (relation : Int -> Int -> Prop) : Prop :=
  forall a b, comparison a b = .ok true ↔
    a.domain = b.domain ∧ relation a.nanoseconds b.nanoseconds

theorem Means.trans {comparison : Timestamp -> Timestamp -> Except TimestampError Bool}
    {relation : Int -> Int -> Prop} [IsTrans Int relation] (means : Means comparison relation)
    (first : comparison a b = .ok true) (second : comparison b c = .ok true) :
    comparison a c = .ok true := by
  rcases (means a b).mp first with ⟨same, before⟩
  rcases (means b c).mp second with ⟨alsoSame, after⟩
  exact (means a c).mpr ⟨same.trans alsoSame, IsTrans.trans _ _ _ before after⟩

theorem means_lt : Means lt (· < ·) := by
  intro a b
  by_cases same : a.domain = b.domain
  · simp [lt_of_eq same, same]
  · simp [(apart same).lt, same]

theorem means_le : Means le (· ≤ ·) := by
  intro a b
  by_cases same : a.domain = b.domain
  · simp [le, lt_of_eq same, eq_iff same, Except.map, same, le_iff_lt_or_eq]
  · simp [(apart same).le, same]

theorem means_eq : Means (fun a b => .ok (decide (a = b))) (· = ·) := by
  intro a b
  by_cases same : a.domain = b.domain
  · simp [eq_iff same, same]
  · simp [(apart same).eq, same]

theorem means_ge : Means ge (· ≥ ·) := by
  intro a b
  by_cases same : a.domain = b.domain
  · simp [ge, lt_of_eq same, Except.map, same]
  · simp [(apart same).ge, same]

theorem means_gt : Means gt (· > ·) := by
  intro a b
  by_cases same : a.domain = b.domain
  · simp [(compared same).gt, same, Ordering.isGT_iff_eq_gt, compare_gt_iff_gt]
  · simp [(apart same).gt, same]

/-- The comparisons that may be chained. -/
def chained : List (Timestamp -> Timestamp -> Except TimestampError Bool) :=
  [lt, le, fun a b => .ok (decide (a = b)), ge, gt]

theorem chained_trans {comparison : Timestamp -> Timestamp -> Except TimestampError Bool}
    (listed : comparison ∈ chained) (first : comparison a b = .ok true)
    (second : comparison b c = .ok true) : comparison a c = .ok true := by
  simp only [chained, List.mem_cons, List.not_mem_nil, or_false] at listed
  rcases listed with same | same | same | same | same <;> subst same
  · exact means_lt.trans first second
  · exact means_le.trans first second
  · exact means_eq.trans first second
  · exact means_ge.trans first second
  · exact means_gt.trans first second

/-! ## Differences -/

theorem add_add (a : Timestamp) (n m : Int) : (a.add n).add m = a.add (n + m) :=
  congrArg (mk a.domain) (Int.add_assoc a.nanoseconds n m)

theorem add_sub_self (a : Timestamp) (n : Int) : (a.add n).sub a = .ok n := by
  have moved : together (a.add n) a = .ok (a.nanoseconds + n, a.nanoseconds) := together_of_eq rfl
  rw [sub, moved]
  have back : a.nanoseconds + n - a.nanoseconds = n := by omega
  exact congrArg Except.ok back

/-- The difference of two instants of one clock leads from the one to the other. -/
theorem exists_sub (same : a.domain = b.domain) :
    Exists fun ns : Int => b.sub a = .ok ns ∧ a.add ns = b := by
  refine ⟨b.nanoseconds - a.nanoseconds, ?_, ?_⟩
  · rw [sub, together_of_eq same.symm]
    rfl
  · have domains : (a.add (b.nanoseconds - a.nanoseconds)).domain = b.domain := same
    have reached : a.nanoseconds + (b.nanoseconds - a.nanoseconds) = b.nanoseconds := by omega
    exact (eq_iff domains).mpr reached

/-- Instants that are moved alike keep their order. -/
theorem add_lt_add (a b : Timestamp) (n : Int) : (a.add n).lt (b.add n) = a.lt b := by
  by_cases same : a.domain = b.domain
  · have moved : (a.add n).domain = (b.add n).domain := same
    rw [lt_of_eq same, lt_of_eq moved]
    exact congrArg Except.ok (decide_eq_decide.mpr (Int.add_lt_add_iff_right n))
  · have moved : (a.add n).domain ≠ (b.add n).domain := same
    rw [(apart same).lt, (apart moved).lt]
    rfl

/-! ## Sorting -/

/-- An error that two clocks have met. -/
def Mixed (cause : TimestampError) : Prop :=
  Exists fun left : Domain => Exists fun right : Domain =>
    left ≠ right ∧ cause = .mixed left right

/-- The order in which the instants of one clock come first. -/
def putting (domain : Domain) (timestamp : Timestamp) : Bool ×ₗ Int :=
  toLex (timestamp.domain != domain, timestamp.nanoseconds)

theorem compares_putting (domain : Domain) :
    Sorting.Compares lt (putting domain) (fun _ => True) Mixed := by
  intro a b _ _
  by_cases same : a.domain = b.domain
  · rw [lt_of_eq same]
    refine decide_eq_decide.mpr ?_
    rw [putting, putting, Prod.Lex.toLex_lt_toLex, same]
    simp only [lt_self_iff_false, true_and, false_or]
  · rw [(apart same).lt]
    exact ⟨a.domain, b.domain, same, rfl⟩

theorem compares_nanoseconds (domain : Domain) :
    Sorting.Compares lt nanoseconds (fun timestamp => timestamp.domain = domain)
      fun _ => False := by
  intro a b one other
  rw [lt_of_eq (one.trans other.symm)]
  exact rfl

variable {timestamps ordered : List Timestamp}

/-- Each clock has an instant in a list. -/
def BothOccur (timestamps : List Timestamp) : Prop :=
  forall domain, Exists fun timestamp : Timestamp =>
    timestamp ∈ timestamps ∧ timestamp.domain = domain

/-- If the first of two instants does not come later, whichever clock comes first, both are of one
clock. -/
theorem le_of_putting_le (early : forall domain, putting domain a ≤ putting domain b) :
    a.le b = .ok true := by
  have first := early b.domain
  rw [putting, putting, Prod.Lex.toLex_le_toLex, bne_self_eq_false] at first
  rcases first with impossible | ⟨same, before⟩
  · exact absurd impossible not_lt_bot
  · exact (means_le a b).mpr ⟨bne_eq_false_iff_eq.mp same, before⟩

/-- A sort gives a list in ascending order, or else two clocks meet. -/
theorem sort_ends (timestamps : List Timestamp) :
    Ends Mixed
      (fun ordered => timestamps.Perm ordered ∧ ordered.Pairwise fun a b => a.le b = .ok true)
      (sort timestamps) := by
  have sorts : forall domain, Ends Mixed (Sorting.Sorts (putting domain) timestamps)
      (sort timestamps) :=
    fun domain => Sorting.sorted_ends (compares_putting domain) fun _ _ => trivial
  cases outcome : sort timestamps with
  | error cause =>
      have mixed := sorts .real
      rw [outcome] at mixed
      exact mixed
  | ok ordered =>
      simp only [outcome] at sorts
      have ascends : forall domain, Sorting.Ascends (putting domain) ordered :=
        fun domain => (sorts domain).ascends
      refine ⟨(sorts .real).perm, ?_⟩
      refine ((ascends .elapsed).and (ascends .real)).imp ?_
      rintro a b ⟨elapsedFirst, realFirst⟩
      refine le_of_putting_le fun domain => ?_
      cases domain with
      | elapsed => exact elapsedFirst
      | real => exact realFirst

/-- A sort of instants of one clock has an answer. -/
theorem sort_of_one_domain {domain : Domain}
    (one : forall timestamp, timestamp ∈ timestamps -> timestamp.domain = domain) :
    Succeeds (sort timestamps) := by
  rcases (Sorting.sorted_ends (compares_nanoseconds domain) one).exists_ok with ⟨ordered, given, _⟩
  exact ⟨ordered, given⟩

/-- Instants in ascending order are of one clock. -/
theorem not_bothOccur (ascends : ordered.Pairwise fun a b => a.le b = .ok true) :
    ¬ BothOccur ordered := by
  intro both
  have one : ordered.Pairwise fun a b => a.domain = b.domain :=
    ascends.imp fun before => ((means_le _ _).mp before).1
  rcases both .elapsed with ⟨a, here, elapsed⟩
  rcases both .real with ⟨b, there, real⟩
  have same := @List.Pairwise.forall_of_forall_of_flip _ _ (fun a b => a.domain = b.domain)
    (fun _ _ => rfl) one (one.imp Eq.symm) a here b there
  rw [elapsed, real] at same
  cases same

theorem exists_one_domain (missing : ¬ BothOccur timestamps) :
    Exists fun domain : Domain =>
      forall timestamp, timestamp ∈ timestamps -> timestamp.domain = domain := by
  rcases not_forall.mp missing with ⟨absent, none⟩
  have different : forall timestamp, timestamp ∈ timestamps -> timestamp.domain ≠ absent :=
    fun timestamp listed same => none ⟨timestamp, listed, same⟩
  cases absent with
  | elapsed =>
      refine ⟨.real, fun timestamp listed => ?_⟩
      cases clock : timestamp.domain with
      | elapsed => exact absurd clock (different timestamp listed)
      | real => rfl
  | real =>
      refine ⟨.elapsed, fun timestamp listed => ?_⟩
      cases clock : timestamp.domain with
      | elapsed => rfl
      | real => exact absurd clock (different timestamp listed)

theorem sort_fails_iff :
    (Exists fun cause : TimestampError => Mixed cause ∧ sort timestamps = .error cause) ↔
      BothOccur timestamps := by
  constructor
  · rintro ⟨cause, _, failed⟩
    by_contra missing
    rcases exists_one_domain missing with ⟨domain, one⟩
    have succeeds := sort_of_one_domain one
    rw [failed] at succeeds
    exact not_succeeds_error succeeds
  · intro both
    have ends := sort_ends timestamps
    cases outcome : sort timestamps with
    | error cause =>
        rw [outcome] at ends
        exact ⟨cause, ends, rfl⟩
    | ok ordered =>
        rw [outcome] at ends
        rcases ends with ⟨perm, ascends⟩
        refine absurd (fun domain => ?_) (not_bothOccur ascends)
        rcases both domain with ⟨timestamp, listed, clock⟩
        exact ⟨timestamp, perm.mem_iff.mp listed, clock⟩

theorem sort_of_not_bothOccur (missing : ¬ BothOccur timestamps) :
    Exists fun ordered : List Timestamp => sort timestamps = .ok ordered ∧
      timestamps.Perm ordered ∧ ordered.Pairwise fun a b => a.le b = .ok true := by
  rcases exists_one_domain missing with ⟨domain, one⟩
  rcases sort_of_one_domain one with ⟨ordered, given⟩
  have ends := sort_ends timestamps
  rw [given] at ends
  exact ⟨ordered, given, ends⟩

/-! ## Both clocks together -/

/-- Two instants of one clock are in exactly one order, that of their nanoseconds, which all comparisons
tell; comparisons chain, and differences add up.  Instants of two clocks are apart.  A sort fails if the
list has instants of both clocks, and else gives the instants of the list in ascending order. -/
theorem ordered_on_each_clock (a b c : Timestamp) (n m : Int) (timestamps : List Timestamp) :
    (a.domain = b.domain ->
      Compared a b (compare a.nanoseconds b.nanoseconds) ∧
        Compared b a (compare a.nanoseconds b.nanoseconds).swap ∧
        (forall order, Compared a b order -> order = compare a.nanoseconds b.nanoseconds) ∧
        Exists fun ns : Int => b.sub a = .ok ns ∧ a.add ns = b) ∧
      (forall comparison, comparison ∈ chained -> comparison a b = .ok true ->
        comparison b c = .ok true -> comparison a c = .ok true) ∧
      ((a.add n).sub a = .ok n ∧ (a.add n).add m = a.add (n + m) ∧
        (a.add n).lt (b.add n) = a.lt b) ∧
      (a.domain ≠ b.domain -> Apart a b) ∧
      ((Exists fun cause : TimestampError => Mixed cause ∧ sort timestamps = .error cause) ↔
        BothOccur timestamps) ∧
      (¬ BothOccur timestamps ->
        Exists fun ordered : List Timestamp => sort timestamps = .ok ordered ∧
          timestamps.Perm ordered ∧ ordered.Pairwise fun a b => a.le b = .ok true) := by
  refine ⟨?_, fun comparison listed => chained_trans listed,
    ⟨add_sub_self a n, add_add a n m, add_lt_add a b n⟩, apart, sort_fails_iff,
    sort_of_not_bothOccur⟩
  intro same
  refine ⟨compared same, ?_, fun order given => given.unique (compared same), exists_sub same⟩
  rw [Int.compare_swap]
  exact compared same.symm

theorem ordered_on_each_clock_of_few :
    Compared ⟨.elapsed, 3⟩ ⟨.elapsed, 5⟩ .lt ∧
      lt ⟨.elapsed, 3⟩ ⟨.elapsed, 8⟩ = .ok true ∧
      Apart ⟨.elapsed, 5⟩ ⟨.real, 5⟩ ∧
      (Exists fun ordered : List Timestamp => sort [⟨.real, 4⟩, ⟨.real, -1⟩] = .ok ordered ∧
        [⟨.real, 4⟩, ⟨.real, -1⟩].Perm ordered ∧
        ordered.Pairwise fun a b => a.le b = .ok true) := by
  have sameClock :=
    ordered_on_each_clock ⟨.elapsed, 3⟩ ⟨.elapsed, 5⟩ ⟨.elapsed, 8⟩ 0 0 [⟨.real, 4⟩, ⟨.real, -1⟩]
  have twoClocks := ordered_on_each_clock ⟨.elapsed, 5⟩ ⟨.real, 5⟩ ⟨.real, 5⟩ 0 0 []
  refine ⟨(sameClock.1 rfl).1, sameClock.2.1 lt List.mem_cons_self rfl rfl,
    twoClocks.2.2.2.1 (by decide), sameClock.2.2.2.2.2 ?_⟩
  intro both
  rcases both .elapsed with ⟨timestamp, listed, clock⟩
  simp only [List.mem_cons, List.not_mem_nil, or_false] at listed
  rcases listed with same | same <;> subst same <;> cases clock

example : sort [⟨.real, 4⟩, ⟨.elapsed, 1⟩, ⟨.real, -1⟩] = .error (.mixed .elapsed .real) := by rfl

end TraceView.Timestamp
