import SqlAdvice.Plan.Basic
import SqlAdvice.Proofs.Distinct
import SqlAdvice.Proofs.RecordFields
import SqlAdvice.Proofs.ShortNumbers
import Mathlib.Algebra.GroupWithZero.Nat
import Mathlib.Algebra.Order.BigOperators.Group.List
import Mathlib.Algebra.Order.Group.Nat
import Mathlib.Computability.RegularExpressions

/-!
# Well-formed plans

A plan is well-formed when its kinds are a word of `SCAN* JOIN* FILTER* SORT?`, its operations are
numbered from one, its total is the sum of its costs, and its warnings are all different
(`Plan.WellFormed`).  These are the plans that can be made from their fields.  The fields of any
other plan are refused with one issue, for the first of the rules (`Plan.rules`) that is broken
(`Plan.ofFields_valid_iff_wellFormed`).  The issue names the rule, with the numbers that break it; if
one of these is too long to be written, the issue says only that (`PlanFault.Says`).

The check knows no words.  It compares neighbouring ranks and counts the sorts: a word is in order
when its letters are in the order of their ranks (`OperationKind.mem_blocks_iff`), and then what is
left of `SORT*` with one sort at most is `SORT?` (`OperationKind.mem_shape_iff`).
-/

namespace SqlAdvice

open SqlAdvice.Number
open scoped Computability

/-! ## Words of kinds -/

namespace OperationKind

open RegularExpression

variable {w : List OperationKind} {kind : OperationKind} {kinds : List OperationKind}

/-- The kinds of a well-formed plan: `SCAN* JOIN* FILTER* SORT?`. -/
def shape : RegularExpression OperationKind :=
  star (char scan) * star (char join) * star (char filter) * (1 + char sort)

/-- Kinds in order, with any number of sorts: `SCAN* JOIN* FILTER* SORT*`. -/
def inOrder : RegularExpression OperationKind :=
  star (char scan) * star (char join) * star (char filter) * star (char sort)

/-- The words that have a block of any length for each of some kinds. -/
def blocks : List OperationKind → Language OperationKind
  | [] => 1
  | kind :: kinds => {[kind]}∗ * blocks kinds

lemma mem_kstar_singleton_iff {α : Type} {a : α} {w : List α} :
    w ∈ ({[a]} : Language α)∗ ↔ ∃ n, w = List.replicate n a := by
  rw [Language.mem_kstar]
  constructor
  · rintro ⟨words, rfl, hwords⟩
    have hreplicate : words = List.replicate words.length [a] := List.eq_replicate_of_mem hwords
    refine ⟨words.length, ?_⟩
    rw [hreplicate, List.flatten_replicate_singleton, List.length_replicate]
  · rintro ⟨n, rfl⟩
    refine ⟨List.replicate n [a], List.flatten_replicate_singleton.symm, fun word hword => ?_⟩
    exact List.eq_of_mem_replicate hword

lemma mem_blocks_cons_iff :
    w ∈ blocks (kind :: kinds) ↔ ∃ n, ∃ v ∈ blocks kinds, w = List.replicate n kind ++ v := by
  rw [blocks, Language.mem_mul]
  constructor
  · rintro ⟨u, hu, v, hv, rfl⟩
    obtain ⟨n, rfl⟩ := mem_kstar_singleton_iff.mp hu
    exact ⟨n, v, hv, rfl⟩
  · rintro ⟨n, v, hv, rfl⟩
    exact ⟨_, mem_kstar_singleton_iff.mpr ⟨n, rfl⟩, v, hv, rfl⟩

/-- A word in order begins with a block of its lowest kind, and what follows has higher ones. -/
lemma exists_block (hrank : ∀ b ∈ kinds, kind.rank < b.rank)
    (hsorted : (w.map rank).Pairwise (· ≤ ·)) (hsub : w ⊆ kind :: kinds) :
    ∃ n v, w = List.replicate n kind ++ v ∧ (v.map rank).Pairwise (· ≤ ·) ∧ v ⊆ kinds := by
  induction w with
  | nil => exact ⟨0, [], rfl, List.Pairwise.nil, List.nil_subset kinds⟩
  | cons a w ih =>
    have hrest := List.pairwise_cons.mp hsorted
    obtain ⟨ha, hsubRest⟩ := List.cons_subset.mp hsub
    rcases List.mem_cons.mp ha with rfl | hlater
    · obtain ⟨n, v, rfl, hv⟩ := ih hrest.2 hsubRest
      exact ⟨n + 1, v, rfl, hv⟩
    · refine ⟨0, a :: w, rfl, hsorted, fun b hb => (List.mem_cons.mp (hsub hb)).resolve_left ?_⟩
      -- The block has ended: a letter of its kind would stand behind a higher one.
      rintro rfl
      have hle : a.rank ≤ b.rank := by
        rcases List.mem_cons.mp hb with rfl | hb
        · exact le_rfl
        · exact hrest.1 b.rank (List.mem_map_of_mem hb)
      exact absurd (hrank a hlater) (by omega)

/-- **Blocks** in the order of the ranks make the words whose letters are in this order. -/
lemma mem_blocks_iff (hkinds : (kinds.map rank).Pairwise (· < ·)) :
    w ∈ blocks kinds ↔ (w.map rank).Pairwise (· ≤ ·) ∧ w ⊆ kinds := by
  induction kinds generalizing w with
  | nil =>
    rw [blocks, Language.mem_one, List.subset_nil]
    exact ⟨fun h => ⟨h ▸ List.Pairwise.nil, h⟩, And.right⟩
  | cons kind kinds ih =>
    rw [List.map_cons, List.pairwise_cons] at hkinds
    obtain ⟨hless, hkinds⟩ := hkinds
    have hrank : ∀ b ∈ kinds, kind.rank < b.rank := fun b hb => hless _ (List.mem_map_of_mem hb)
    rw [mem_blocks_cons_iff]
    constructor
    · rintro ⟨n, v, hv, rfl⟩
      obtain ⟨hsorted, hsub⟩ := (ih hkinds).mp hv
      constructor
      · rw [List.map_append, List.map_replicate, List.pairwise_append]
        refine ⟨List.pairwise_replicate.mpr (.inr le_rfl), hsorted, fun i hi j hj => ?_⟩
        obtain ⟨b, hb, rfl⟩ := List.mem_map.mp hj
        rw [List.eq_of_mem_replicate hi]
        exact (hrank b (hsub hb)).le
      · refine List.append_subset.mpr ⟨fun b hb => ?_, fun b hb => ?_⟩
        · exact List.eq_of_mem_replicate hb ▸ List.mem_cons_self
        · exact List.mem_cons_of_mem kind (hsub hb)
    · rintro ⟨hsorted, hsub⟩
      obtain ⟨n, v, rfl, hv⟩ := exists_block hrank hsorted hsub
      exact ⟨n, v, (ih hkinds).mpr hv, rfl⟩

lemma rank_injective : Function.Injective rank := by
  rintro ⟨⟩ ⟨⟩ <;> simp [rank]

/-- Words in order are those whose ranks are in order. -/
lemma mem_inOrder_iff : w ∈ inOrder.matches' ↔ (w.map rank).Pairwise (· ≤ ·) := by
  have hblocks : inOrder.matches' = blocks all := by
    simp only [inOrder, matches'_mul, matches'_star, matches'_char, all, blocks, mul_one, mul_assoc]
  rw [hblocks, mem_blocks_iff (by decide)]
  refine and_iff_left fun kind _ => ?_
  cases kind <;> decide

lemma mem_optional_sort_iff :
    w ∈ (1 + char sort).matches' ↔ w ∈ (star (char sort)).matches' ∧ w.count sort ≤ 1 := by
  rw [matches'_add, matches'_epsilon, matches'_star, matches'_char, mem_kstar_singleton_iff,
    Language.mem_add, Language.mem_one]
  constructor
  · rintro (rfl | hw)
    · exact ⟨⟨0, rfl⟩, Nat.zero_le 1⟩
    · obtain rfl : w = [sort] := hw
      exact ⟨⟨1, rfl⟩, le_rfl⟩
  · rintro ⟨⟨n, rfl⟩, hcount⟩
    rw [List.count_replicate_self] at hcount
    rcases Nat.le_one_iff_eq_zero_or_eq_one.mp hcount with rfl | rfl
    · exact .inl rfl
    · exact .inr rfl

/-- **One sort at most** is left of any number of them when they are counted. -/
lemma mem_shape_iff : w ∈ shape.matches' ↔ w ∈ inOrder.matches' ∧ w.count sort ≤ 1 := by
  let front := star (char scan) * star (char join) * star (char filter)
  have hfront : ∀ u ∈ front.matches', u.count sort = 0 := by
    intro u hu
    have hblocks : front.matches' = blocks [scan, join, filter] := by
      simp only [front, matches'_mul, matches'_star, matches'_char, blocks, mul_one, mul_assoc]
    rw [hblocks, mem_blocks_iff (by decide)] at hu
    exact List.count_eq_zero_of_not_mem fun hsort => absurd (hu.2 hsort) (by decide)
  have hcount : ∀ {u v}, u ∈ front.matches' → (u ++ v).count sort = v.count sort := by
    intro u v hu
    rw [List.count_append, hfront u hu, Nat.zero_add]
  rw [shape, inOrder, matches'_mul, matches'_mul front, Language.mem_mul, Language.mem_mul]
  constructor
  · rintro ⟨u, hu, v, hv, rfl⟩
    obtain ⟨hsorts, hone⟩ := mem_optional_sort_iff.mp hv
    exact ⟨⟨u, hu, v, hsorts, rfl⟩, (hcount hu).trans_le hone⟩
  · rintro ⟨⟨u, hu, v, hsorts, rfl⟩, hone⟩
    exact ⟨u, hu, v, mem_optional_sort_iff.mpr ⟨hsorts, (hcount hu).symm.trans_le hone⟩, rfl⟩

end OperationKind

/-! ## Broken rules -/

namespace PlanFault

variable {fault : PlanFault}

/-- The numbers that are named with a broken rule. -/
def numbers : PlanFault → List Nat
  | .ids found => found
  | .total stated sum => [stated, sum]
  | .order | .sorts | .warnings => []

/-- The wording of a broken rule. -/
def wording : PlanFault → String
  | .ids found =>
    "Operation ids must be contiguous from 1, got [" ++
      ", ".intercalate (found.map decimalNat) ++ "]"
  | .order => "Operations must be ordered SCAN, JOIN, FILTER, SORT"
  | .sorts => "A plan holds at most one SORT operation"
  | .total stated sum =>
    "total_cost " ++ decimalNat stated ++ " does not match operation sum " ++ decimalNat sum
  | .warnings => "Plan warnings must be unique"

/-- What the issue of a broken rule says: the wording, or that a number in it is too long. -/
inductive Says (fault : PlanFault) : String → Prop
  | wording (hshort : ∀ n ∈ fault.numbers, IsShort n) : fault.Says fault.wording
  | digits {n : Nat} (hn : n ∈ fault.numbers) (hlong : ¬IsShort n) :
      fault.Says DigitFault.tooMany.message

lemma isWritten_text (fault : PlanFault) :
    IsWritten fault.text (∀ n ∈ fault.numbers, IsShort n) fault.wording := by
  have hunnumbered : ∀ s : String, IsWritten (.ok s) (∀ n ∈ ([] : List Nat), IsShort n) s :=
    fun s => (isWritten_ok s).congr (by simp)
  cases fault with
  | ids found => exact (IsWritten.mapM isWritten_writeNat).map _
  | total stated sum =>
    have hsum := (isWritten_writeNat sum).map fun s =>
      "total_cost " ++ decimalNat stated ++ " does not match operation sum " ++ s
    refine ((isWritten_writeNat stated).bind (g := fun stated => do
      let sum ← writeNat sum
      return "total_cost " ++ stated ++ " does not match operation sum " ++ sum) hsum).congr ?_
    simp [numbers]
  | order => exact hunnumbered _
  | sorts => exact hunnumbered _
  | warnings => exact hunnumbered _

lemma message_eq_iff_says {said : String} : fault.message = said ↔ fault.Says said := by
  have hwritten := isWritten_text fault
  unfold message
  by_cases hshort : ∀ n ∈ fault.numbers, IsShort n
  · rw [hwritten.eq_ok hshort]
    constructor
    · rintro rfl
      exact .wording hshort
    · rintro (_ | ⟨hn, hlong⟩)
      · rfl
      · exact absurd (hshort _ hn) hlong
  · have hdigits : fault.text = .error .tooMany := by
      cases htext : fault.text with
      | ok text => exact absurd (hwritten.exists_iff.mp ⟨text, htext⟩) hshort
      | error fault => rfl
    rw [hdigits]
    constructor
    · rintro rfl
      obtain ⟨n, hn, hlong⟩ : ∃ n ∈ fault.numbers, ¬IsShort n := by simpa using hshort
      exact .digits hn hlong
    · rintro (h | _)
      · exact absurd h hshort
      · rfl

lemma head?_append {s t : String} {c : Char} (h : s.toList.head? = some c) :
    (s ++ t).toList.head? = some c := by
  rw [String.toList_append, List.head?_append_of_ne_nil _ (by rintro hs; simp [hs] at h), h]

/-- The wording of a rule always names the rule: no wording is about digits. -/
lemma wording_ne_tooMany (fault : PlanFault) : fault.wording ≠ DigitFault.tooMany.message := by
  have hhead : DigitFault.tooMany.message.toList.head? = some 'E' :=
    head?_append (head?_append (head?_append (by decide +kernel)))
  intro h
  rw [← h] at hhead
  have hother : ∃ c, c ≠ 'E' ∧ fault.wording.toList.head? = some c := by
    cases fault with
    | ids => exact ⟨'O', by decide, head?_append (head?_append (by decide +kernel))⟩
    | order => exact ⟨'O', by decide, by decide +kernel⟩
    | sorts => exact ⟨'A', by decide, by decide +kernel⟩
    | total =>
      exact ⟨'t', by decide, head?_append (head?_append (head?_append (by decide +kernel)))⟩
    | warnings => exact ⟨'P', by decide, by decide +kernel⟩
  obtain ⟨c, hc, hother⟩ := hother
  rw [hhead, Option.some.injEq] at hother
  exact hc hother.symm

end PlanFault

namespace Plan

variable {p : Plan} {fault : PlanFault}

/-! ## Rules -/

/-- The kinds of the operations of a plan. -/
def kinds (p : Plan) : List OperationKind :=
  p.operations.map (·.kind)

/-- Operations are numbered from one. -/
def IsNumbered (p : Plan) : Prop :=
  ∀ k (h : k < p.operations.length), p.operations[k].id = k + 1

/-- A plan as it should be. -/
structure WellFormed (p : Plan) : Prop where
  kinds : p.kinds ∈ OperationKind.shape.matches'
  numbered : p.IsNumbered
  total : p.totalCost = (p.operations.map (·.cost)).sum
  warnings : p.warnings.Nodup

/-- A rule of plans: what it says, and the fault of a plan that breaks it. -/
structure Rule where
  fault : PlanFault
  holds : Prop

/-- The rules in the order in which they are named. -/
def rules (p : Plan) : List Rule := [
  ⟨.ids (p.operations.map (·.id)), p.IsNumbered⟩,
  ⟨.order, p.kinds ∈ OperationKind.inOrder.matches'⟩,
  ⟨.sorts, p.kinds.count .sort ≤ 1⟩,
  ⟨.total p.totalCost (p.operations.map (·.cost)).sum,
    p.totalCost = (p.operations.map (·.cost)).sum⟩,
  ⟨.warnings, p.warnings.Nodup⟩]

/-- A plan is well-formed when it keeps every rule. -/
lemma wellFormed_iff : p.WellFormed ↔ ∀ rule ∈ p.rules, rule.holds := by
  simp only [rules, List.forall_mem_cons, List.not_mem_nil, false_imp_iff, implies_true, and_true]
  constructor
  · rintro ⟨hkinds, hnumbered, htotal, hwarnings⟩
    obtain ⟨horder, hsorts⟩ := OperationKind.mem_shape_iff.mp hkinds
    exact ⟨hnumbered, horder, hsorts, htotal, hwarnings⟩
  · rintro ⟨hnumbered, horder, hsorts, htotal, hwarnings⟩
    exact ⟨OperationKind.mem_shape_iff.mpr ⟨horder, hsorts⟩, hnumbered, htotal, hwarnings⟩

/-- The fault of the first rule that does not hold. -/
def IsFirstBroken (rules : List Rule) (fault : PlanFault) : Prop :=
  ∃ kept rule rest, rules = kept ++ rule :: rest ∧ (∀ r ∈ kept, r.holds) ∧ ¬ rule.holds ∧
    rule.fault = fault

lemma not_isFirstBroken_nil : ¬ IsFirstBroken [] fault := by
  rintro ⟨kept, rule, rest, h, -⟩
  exact List.append_ne_nil_of_right_ne_nil kept (List.cons_ne_nil rule rest) h.symm

lemma isFirstBroken_cons_iff {rule : Rule} {rest : List Rule} :
    IsFirstBroken (rule :: rest) fault ↔
      ¬ rule.holds ∧ rule.fault = fault ∨ rule.holds ∧ IsFirstBroken rest fault := by
  constructor
  · rintro ⟨kept, broken, rest', h, hkept, hbroken⟩
    rcases List.cons_eq_append_iff.mp h with ⟨rfl, h⟩ | ⟨kept, rfl, rfl⟩
    · obtain ⟨rfl, -⟩ := List.cons.inj h
      exact .inl hbroken
    · obtain ⟨hrule, hkept⟩ := List.forall_mem_cons.mp hkept
      exact .inr ⟨hrule, kept, broken, rest', rfl, hkept, hbroken⟩
  · rintro (hbroken | ⟨hrule, kept, broken, rest', rfl, hkept, hbroken⟩)
    · exact ⟨[], rule, rest, rfl, by simp, hbroken⟩
    · exact ⟨rule :: kept, broken, rest', rfl, List.forall_mem_cons.mpr ⟨hrule, hkept⟩, hbroken⟩

/-- There is a first broken rule unless all hold. -/
lemma exists_isFirstBroken_iff {rules : List Rule} :
    (∃ fault, IsFirstBroken rules fault) ↔ ¬ ∀ rule ∈ rules, rule.holds := by
  induction rules with
  | nil => simp [not_isFirstBroken_nil]
  | cons rule rest ih =>
    simp only [isFirstBroken_cons_iff, List.forall_mem_cons]
    by_cases hrule : rule.holds
    · simp [hrule, ih]
    · simp [hrule]

/-! ## The check -/

lemma costOf_eq_sum (ops : List Operation) : costOf ops = (ops.map (·.cost)).sum := by
  induction ops with
  | nil => rfl
  | cons op ops ih => rw [costOf, ih, List.map_cons, List.sum_cons]

lemma isNumbered_iff :
    p.IsNumbered ↔ p.operations.map (·.id) = List.range' 1 p.operations.length := by
  rw [IsNumbered, List.ext_getElem_iff]
  simp [Nat.add_comm]

/-- The check gives back the plan that it was given. -/
lemma eq_of_checked {p q : Plan} (h : p.checked = .ok q) : q = p := by
  unfold checked at h
  dsimp only at h
  split_ifs at h
  exact (Except.ok.inj h).symm

/-- A test for one rule, before the tests for the rest. -/
lemma ite_eq_error_iff {test holds : Prop} [Decidable test] {found : PlanFault} {rest : List Rule}
    {checked : Except PlanFault Plan} (htest : test ↔ ¬ holds)
    (hrest : checked = .error fault ↔ IsFirstBroken rest fault) :
    (if test then .error found else checked) = .error fault ↔
      IsFirstBroken (⟨found, holds⟩ :: rest) fault := by
  rw [isFirstBroken_cons_iff, ← hrest]
  by_cases hholds : holds
  · simp [htest, hholds]
  · simp [htest, hholds]

/-- **The check** fails with the first broken rule. -/
lemma checked_eq_error_iff : p.checked = .error fault ↔ IsFirstBroken p.rules fault := by
  have hranks : p.operations.map (·.kind.rank) = p.kinds.map OperationKind.rank := by
    rw [kinds, List.map_map]
    rfl
  have hsorts : (p.kinds.map OperationKind.rank).count OperationKind.sort.rank =
      p.kinds.count .sort :=
    List.count_map_of_injective p.kinds _ OperationKind.rank_injective .sort
  have hrange : (List.range (p.operations.map (·.id)).length).map (· + 1) =
      List.range' 1 p.operations.length := by
    rw [List.length_map, List.range'_eq_map_range]
    exact List.map_congr_left fun i _ => Nat.add_comm i 1
  unfold checked rules
  dsimp only
  rw [hranks, hsorts, hrange, costOf_eq_sum]
  apply ite_eq_error_iff
  · rw [bne_iff_ne, ne_eq, isNumbered_iff]
  apply ite_eq_error_iff
  · rw [Bool.not_eq_true', decide_eq_false_iff_not, OperationKind.mem_inOrder_iff]
  apply ite_eq_error_iff
  · exact Nat.not_le.symm
  apply ite_eq_error_iff
  · exact bne_iff_ne
  apply ite_eq_error_iff
  · rw [bne_iff_ne, ne_eq, length_eraseDups_eq_iff]
  · exact iff_of_false nofun not_isFirstBroken_nil

/-- The check passes a plan exactly if it is well-formed. -/
lemma checked_eq_ok_iff : p.checked = .ok p ↔ p.WellFormed := by
  have hfails : (∃ fault, p.checked = .error fault) ↔ ¬ p.WellFormed := by
    rw [wellFormed_iff, ← exists_isFirstBroken_iff]
    exact exists_congr fun fault => checked_eq_error_iff
  rw [← not_iff_not, ← hfails]
  cases hchecked : p.checked with
  | ok q => simp [eq_of_checked hchecked]
  | error fault => simp

end Plan

/-! ## Fields -/

/-- The items of a sequence, which is a list or a tuple. -/
inductive Value.IsSequence : Value → List Value → Prop
  | list (items : List Value) : IsSequence (.list items) items
  | tuple (items : List Value) : IsSequence (.tuple items) items

/-- A mapping has the fields of an operation. -/
structure Operation.HasFields (op : Operation) (pairs : List (Value × Value)) : Prop where
  id : Value.lookup? pairs "id" = some (.int op.id)
  kind : Value.lookup? pairs "type" = some (.text op.kind.name)
  cost : Value.lookup? pairs "cost" = some (.int op.cost)
  description : Value.lookup? pairs "description" = some (.text op.description)

/-- A mapping has the fields of a plan.  Fields that have defaults may be left out. -/
structure Plan.HasFields (p : Plan) (pairs : List (Value × Value)) : Prop where
  operations : ∃ items,
    ((Value.lookup? pairs "operations").getD (.list [])).IsSequence items ∧
      List.Forall₂ (fun op item => ∃ fields, item = .mapping fields ∧ op.HasFields fields)
        p.operations items
  totalCost : (Value.lookup? pairs "total_cost").getD (.int 0) = .int p.totalCost
  warnings : ((Value.lookup? pairs "warnings").getD (.list [])).IsSequence (p.warnings.map .text)

/-- The fields of an operation. -/
def Operation.fields (op : Operation) : List (Value × Value) := [
  (.text "id", .int op.id), (.text "type", .text op.kind.name), (.text "cost", .int op.cost),
  (.text "description", .text op.description)]

/-- The fields of a plan. -/
def Plan.fields (p : Plan) : List (Value × Value) := [
  (.text "operations", .tuple (p.operations.map fun op => .mapping op.fields)),
  (.text "total_cost", .int p.totalCost), (.text "warnings", .tuple (p.warnings.map .text))]

lemma Operation.hasFields_fields (op : Operation) : op.HasFields op.fields := by
  constructor <;> rfl

/-- Every plan has its fields in some mapping. -/
lemma Plan.hasFields_fields (p : Plan) : p.HasFields p.fields := by
  refine ⟨⟨_, .tuple _, ?_⟩, rfl, .tuple _⟩
  rw [List.forall₂_map_right_iff]
  exact List.forall₂_same.mpr fun op _ => ⟨op.fields, rfl, op.hasFields_fields⟩

open Record

lemma readSequence_of_isSequence {α : Type} {read : Value → Checked α} {v : Value}
    {items : List Value} {as : List α} (hitems : v.IsSequence items)
    (h : List.Forall₂ (fun a v => read v = .valid a) as items) :
    readSequence read v = .valid as := by
  cases hitems with
  | list => exact readItems_of_forall₂ h 0
  | tuple => exact readItems_of_forall₂ h 0

/-- The operation is read from its fields if its number is one that counts. -/
lemma Operation.HasFields.ofFields {op : Operation} {pairs : List (Value × Value)}
    (h : op.HasFields pairs) (hid : 1 ≤ op.id) : Operation.ofFields pairs = .valid op := by
  have hkind : readNamed OperationKind.ofName? (.text op.kind.name) = .valid op.kind := by
    cases op.kind <;> rfl
  have hdescription : readText (.text op.description) = .valid op.description := rfl
  rw [Operation.ofFields, required_of_lookup? h.id (readNat_int hid),
    required_of_lookup? h.kind hkind, required_of_lookup? h.cost (readNat_int (Nat.zero_le _)),
    required_of_lookup? h.description hdescription]
  rfl

namespace Plan

variable {p : Plan} {pairs : List (Value × Value)}

/-- The fields of a plan are read as they are, and the plan is then checked. -/
lemma HasFields.ofFields (h : p.HasFields pairs) (hids : ∀ op ∈ p.operations, 1 ≤ op.id) :
    Plan.ofFields pairs = p.asRecord := by
  obtain ⟨items, hitems, hitem⟩ := h.operations
  have hread : List.Forall₂ (fun op item => readRecord Operation.ofFields item = .valid op)
      p.operations items := by
    refine ((List.forall₂_and_left _ _).mpr ⟨hids, hitem⟩).imp ?_
    rintro op _ ⟨hid, fields, rfl, hfields⟩
    exact hfields.ofFields hid
  have hwarning : List.Forall₂ (fun s v => readText v = .valid s) p.warnings
      (p.warnings.map .text) := by
    rw [List.forall₂_map_right_iff]
    exact List.forall₂_same.mpr fun s _ => rfl
  have hoperations : withDefault pairs "operations" []
      (readSequence (readRecord Operation.ofFields)) = .valid p.operations :=
    withDefault_of_getD rfl (readSequence_of_isSequence hitems hread)
  have htotal : withDefault pairs "total_cost" 0 (readNat 0) = .valid p.totalCost :=
    withDefault_of_getD (readNat_int le_rfl) (h.totalCost ▸ readNat_int (Nat.zero_le _))
  have hwarnings : withDefault pairs "warnings" [] (readSequence readText) = .valid p.warnings :=
    withDefault_of_getD rfl (readSequence_of_isSequence h.warnings hwarning)
  rw [Plan.ofFields, hoperations, htotal, hwarnings]
  rfl

/-- **Plans are accepted exactly if they are well-formed.**  The fields of a plan, with numbers from
one on, make this plan if it is well-formed, and nothing else.  Otherwise there is one issue, of the
record as a whole, and it is about the first of the rules that is broken. -/
theorem ofFields_valid_iff_wellFormed (hfields : p.HasFields pairs)
    (hids : ∀ op ∈ p.operations, 1 ≤ op.id) :
    (∀ q, Plan.ofFields pairs = .valid q ↔ q = p ∧ p.WellFormed) ∧
      ∀ issues, Plan.ofFields pairs = .invalid issues ↔
        ∃ fault said, IsFirstBroken p.rules fault ∧ fault.Says said ∧
          issues = [⟨[], .rule said⟩] := by
  rw [hfields.ofFields hids, asRecord]
  simp only [← checked_eq_ok_iff, ← checked_eq_error_iff, ← PlanFault.message_eq_iff_says]
  cases hchecked : p.checked with
  | ok q =>
    obtain rfl := eq_of_checked hchecked
    simp [eq_comm]
  | error fault => simp [Checked.fail, eq_comm]

/-- A plan that breaks three rules: order, total and warnings. -/
def filterBeforeScan : Plan where
  operations := [⟨1, .filter, 3, "Filter rows"⟩, ⟨2, .scan, 4, "Scan a table"⟩]
  totalCost := 5
  warnings := ["slow", "slow"]

theorem ofFields_filterBeforeScan :
    Plan.ofFields filterBeforeScan.fields =
      .invalid [⟨[], .rule "Operations must be ordered SCAN, JOIN, FILTER, SORT"⟩] := by
  have hids : ∀ op ∈ filterBeforeScan.operations, 1 ≤ op.id := by decide
  have hnumbered : filterBeforeScan.IsNumbered := by
    rw [isNumbered_iff]
    decide
  have horder : filterBeforeScan.kinds ∉ OperationKind.inOrder.matches' := by
    rw [OperationKind.mem_inOrder_iff]
    decide
  refine ((ofFields_valid_iff_wellFormed filterBeforeScan.hasFields_fields hids).2 _).mpr ⟨.order,
    _, ⟨[_], _, _, rfl, ?_, horder, rfl⟩, .wording nofun, rfl⟩
  simpa using hnumbered

/-- A plan whose costs have a sum with a digit too many, and another total. -/
def longSum : Plan where
  operations := [⟨1, .scan, 10 ^ digitLimit - 1, ""⟩, ⟨2, .scan, 1, ""⟩]

/-- The total does not match, and that is not what the issue says. -/
theorem ofFields_longSum :
    ∃ issue, Plan.ofFields longSum.fields = .invalid [issue] ∧
      IsFirstBroken longSum.rules (.total 0 (10 ^ digitLimit)) ∧
      ∀ fault : PlanFault, issue.kind ≠ .rule fault.wording := by
  have hids : ∀ op ∈ longSum.operations, 1 ≤ op.id := by simp [longSum]
  have hsum : (longSum.operations.map (·.cost)).sum = 10 ^ digitLimit := by
    simp only [longSum, List.map_cons, List.map_nil, List.sum_cons, List.sum_nil, Nat.add_zero]
    exact Nat.sub_add_cancel (Nat.pow_pos (by decide))
  have hfirst : IsFirstBroken longSum.rules (.total 0 (10 ^ digitLimit)) := by
    rw [← hsum]
    refine ⟨[_, _, _], _, _, rfl, ?_, ?_, rfl⟩
    · have hnumbered : longSum.IsNumbered := isNumbered_iff.mpr (by simp [longSum, List.range'])
      have horder : longSum.kinds ∈ OperationKind.inOrder.matches' :=
        OperationKind.mem_inOrder_iff.mpr (by simp [kinds, longSum])
      have hsorts : longSum.kinds.count .sort ≤ 1 := by simp [kinds, longSum]
      simpa using ⟨hnumbered, horder, hsorts⟩
    · rw [hsum]
      exact (Nat.pow_pos (by decide)).ne
  refine ⟨_, ((ofFields_valid_iff_wellFormed longSum.hasFields_fields hids).2 _).mpr
    ⟨_, _, hfirst, .digits (List.mem_cons_of_mem _ List.mem_cons_self) not_isShort_pow, rfl⟩,
    hfirst, fun fault h => ?_⟩
  exact fault.wording_ne_tooMany (IssueKind.rule.inj h).symm

end Plan

end SqlAdvice
