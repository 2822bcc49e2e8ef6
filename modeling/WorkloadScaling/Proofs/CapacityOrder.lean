import Mathlib
import WorkloadScaling.Proofs.CapacityTotal

/-!
# The order of the nodes

No node takes away from a total, so a total that leaves its range in one order of the nodes leaves
it in every other, and a node that cannot be counted is met in each. Orders differ only in which
of several faults is met first.
-/
namespace WorkloadScaling.ClusterSize

lemma Adds.not_rejects {node : Node} {n : ℤ} (h : Adds node n) (text : String) :
    ¬Rejects node text := by
  intro hrejects
  have hreported : node.cpu = some text := by
    cases hrejects with
    | malformed reported _ => exact reported
    | negative reported _ _ => exact reported
  cases h with
  | silent unreported => simp [unreported] at hreported
  | counted reported read nonneg =>
    obtain rfl := Option.some.inj (reported.symm.trans hreported)
    cases hrejects with
    | malformed _ unread => simp [unread] at read
    | negative _ read' neg =>
      obtain rfl := Option.some.inj (read.symm.trans read')
      exact absurd neg (Int.not_lt.mpr nonneg)

lemma foldlM_of_adds {nodes : List Node} {ns : List ℤ} {total : ℤ}
    (hall : List.Forall₂ Adds nodes ns) (htotal : 0 ≤ total) (hmax : total ≤ 2 ^ 127 - 1) :
    nodes.foldlM addNode ⟨total⟩ =
      if total + ns.sum ≤ 2 ^ 127 - 1 then .ok ⟨total + ns.sum⟩ else .error .capacityOverflow := by
  induction hall generalizing total with
  | nil =>
    rw [List.sum_nil, add_zero, if_pos hmax]
    rfl
  | @cons node n nodes ns adds hrest ih =>
    have hn := adds.nonneg
    have hsum := sum_nonneg_of_adds hrest
    rw [List.foldlM_cons, List.sum_cons, ← add_assoc]
    by_cases hfits : total + n ≤ 2 ^ 127 - 1
    · rw [addNode_of_fits adds htotal hfits, ← ih (by omega) hfits]
      rfl
    · rw [addNode_of_exceeds adds hmax (Int.not_le.mp hfits), if_neg (by omega)]
      rfl

lemma ofNodes_eq_of_sum_eq {nodes nodes' : List Node} {ns ns' : List ℤ}
    (hall : List.Forall₂ Adds nodes ns) (hall' : List.Forall₂ Adds nodes' ns')
    (hlength : nodes'.length = nodes.length) (hsum : ns'.sum = ns.sum) :
    ofNodes nodes' = ofNodes nodes := by
  have hfold : nodes'.foldlM addNode Quantity.zero = nodes.foldlM addNode Quantity.zero := by
    have hmax : (0 : ℤ) ≤ 2 ^ 127 - 1 := by norm_num
    have h := foldlM_of_adds hall le_rfl hmax
    have h' := foldlM_of_adds hall' le_rfl hmax
    rw [hsum] at h'
    exact h'.trans h.symm
  rw [ofNodes, ofNodes, hfold, hlength]

lemma ofNodes_eq_of_perm {nodes nodes' : List Node} {ns : List ℤ} (hperm : nodes.Perm nodes')
    (hall : List.Forall₂ Adds nodes ns) : ofNodes nodes' = ofNodes nodes := by
  obtain ⟨ns', hall', hns⟩ := List.perm_comp_forall₂ hperm.symm hall
  exact ofNodes_eq_of_sum_eq hall hall' hperm.length_eq.symm hns.sum_eq

lemma exists_adds_of_ok {nodes : List Node} {size : ClusterSize} (h : ofNodes nodes = .ok size) :
    ∃ ns, List.Forall₂ Adds nodes ns := by
  obtain ⟨r, hr⟩ := exists_outcome nodes
  rw [hr.ofNodes_eq] at h
  subst h
  cases hr with
  | counted walked _ =>
    obtain ⟨ns, hall, -⟩ := walked.exists_sum
    exact ⟨ns, hall⟩

lemma exists_adds_of_not_rejects {nodes : List Node}
    (h : ∀ node ∈ nodes, ∀ text, ¬Rejects node text) : ∃ ns, List.Forall₂ Adds nodes ns := by
  induction nodes with
  | nil => exact ⟨[], .nil⟩
  | cons node nodes ih =>
    rw [List.forall_mem_cons] at h
    obtain ⟨n, hadds⟩ := (adds_or_rejects node).resolve_right fun ⟨text, hrejects⟩ =>
      h.1 text hrejects
    obtain ⟨ns, hall⟩ := ih h.2
    exact ⟨n :: ns, .cons hadds hall⟩

/-- In any order the nodes come to the same size, or to none. If each of them counts they come to
the same failure, too. -/
theorem ofNodes_perm {nodes nodes' : List Node} (hperm : nodes.Perm nodes') :
    ((∃ size, ofNodes nodes = .ok size ∧ ofNodes nodes' = .ok size) ∨
      ∃ e e', ofNodes nodes = .error e ∧ ofNodes nodes' = .error e') ∧
    ((∀ node ∈ nodes, ∀ text, ¬Rejects node text) → ofNodes nodes' = ofNodes nodes) := by
  constructor
  · cases h : ofNodes nodes with
    | ok size =>
      obtain ⟨ns, hall⟩ := exists_adds_of_ok h
      exact .inl ⟨size, rfl, (ofNodes_eq_of_perm hperm hall).trans h⟩
    | error e =>
      cases h' : ofNodes nodes' with
      | ok size =>
        obtain ⟨ns, hall⟩ := exists_adds_of_ok h'
        have heq := ofNodes_eq_of_perm hperm.symm hall
        rw [h, h'] at heq
        cases heq
      | error e' => exact .inr ⟨e, e', rfl, rfl⟩
  · intro hcount
    obtain ⟨ns, hall⟩ := exists_adds_of_not_rejects hcount
    exact ofNodes_eq_of_perm hperm hall

/-- Two nodes that leave the range together do so around one that reports nothing. -/
theorem ofNodes_perm_overflow :
    let huge (name : String) : Node := ⟨some name, some "1e29"⟩
    let silent : Node := ⟨none, none⟩
    let nodes := [huge "a", huge "b", silent]
    let nodes' := [silent, huge "b", huge "a"]
    nodes.Perm nodes' ∧ (∀ node ∈ nodes, ∀ text, ¬Rejects node text) ∧
      ofNodes nodes = .error .capacityOverflow ∧ ofNodes nodes' = .error .capacityOverflow := by
  intro huge silent nodes nodes'
  have hperm : nodes.Perm nodes' := by decide +kernel
  have hread : Quantity.parse? "1e29" = some ⟨10 ^ 38⟩ := by decide +kernel
  have hcount : ∀ node ∈ nodes, ∀ text, ¬Rejects node text := by
    have hhuge : ∀ name, Adds (huge name) (10 ^ 38) := fun _ => .counted rfl hread (by norm_num)
    have hsilent : Adds silent 0 := .silent rfl
    rw [List.forall_mem_cons, List.forall_mem_cons, List.forall_mem_singleton]
    exact ⟨(hhuge "a").not_rejects, (hhuge "b").not_rejects, hsilent.not_rejects⟩
  have hoverflow : ofNodes nodes = .error .capacityOverflow := by rfl
  exact ⟨hperm, hcount, hoverflow, ((ofNodes_perm hperm).2 hcount).trans hoverflow⟩

/-- With a node that cannot be counted the first fault in the order is told. -/
example :
    ofNodes [⟨some "a", some "1e29"⟩, ⟨some "b", some "1e29"⟩, ⟨some "c", some "four"⟩] =
      .error .capacityOverflow ∧
    ofNodes [⟨some "c", some "four"⟩, ⟨some "b", some "1e29"⟩, ⟨some "a", some "1e29"⟩] =
      .error (.invalidQuantity "c" "four") := ⟨rfl, rfl⟩

end WorkloadScaling.ClusterSize
