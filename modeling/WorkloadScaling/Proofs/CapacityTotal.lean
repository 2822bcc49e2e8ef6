import Mathlib
import WorkloadScaling.Capacity

/-!
# The capacity of a cluster

The nodes are walked in order with an exact total. The first node that cannot be counted decides
the failure; nothing behind it matters. A walk that reaches the end decides the size.
-/
namespace WorkloadScaling.ClusterSize

inductive Adds : Node → ℤ → Prop
  | silent {node : Node} (unreported : node.cpu = none) : Adds node 0
  | counted {node : Node} {text : String} {q : Quantity} (reported : node.cpu = some text)
      (read : Quantity.parse? text = some q) (nonneg : 0 ≤ q.nanos) : Adds node q.nanos

inductive Rejects : Node → String → Prop
  | malformed {node : Node} {text : String} (reported : node.cpu = some text)
      (unread : Quantity.parse? text = none) : Rejects node text
  | negative {node : Node} {text : String} {q : Quantity} (reported : node.cpu = some text)
      (read : Quantity.parse? text = some q) (neg : q.nanos < 0) : Rejects node text

/-- All nodes are counted, and the total keeps within 127 bits at each of them. -/
inductive Walk : List Node → ℤ → Prop
  | start : Walk [] 0
  | step {nodes : List Node} {node : Node} {total n : ℤ} (before : Walk nodes total)
      (adds : Adds node n) (fits : total + n ≤ 2 ^ 127 - 1) : Walk (nodes ++ [node]) (total + n)

/-- What comes of the nodes: the walk stops at one of them, or its total is judged. -/
inductive Outcome (nodes : List Node) : Except Failure ClusterSize → Prop
  | invalid {before after : List Node} {node : Node} {total : ℤ} {text : String}
      (cut : nodes = before ++ node :: after) (walked : Walk before total)
      (rejected : Rejects node text) :
      Outcome nodes (.error (.invalidQuantity (node.name.getD "<unnamed>") text))
  | overflow {before after : List Node} {node : Node} {total n : ℤ}
      (cut : nodes = before ++ node :: after) (walked : Walk before total)
      (adds : Adds node n) (exceeds : 2 ^ 127 - 1 < total + n) :
      Outcome nodes (.error .capacityOverflow)
  | fractional {total : ℤ} (walked : Walk nodes total) (broken : ¬10 ^ 9 ∣ total) :
      Outcome nodes (.error (.nonIntegralCores total))
  | outOfRange {cores : ℤ} (walked : Walk nodes (cores * 10 ^ 9)) (large : 2 ^ 64 - 1 < cores) :
      Outcome nodes (.error (.coreTotalOutOfRange cores))
  | counted {cores : ℕ} (walked : Walk nodes (cores * 10 ^ 9)) (small : cores ≤ 2 ^ 64 - 1) :
      Outcome nodes (.ok ⟨nodes.length, cores⟩)

lemma Adds.nonneg {node : Node} {n : ℤ} (h : Adds node n) : 0 ≤ n := by
  cases h with
  | silent _ => exact le_rfl
  | counted _ _ nonneg => exact nonneg

lemma adds_or_rejects (node : Node) : (∃ n, Adds node n) ∨ ∃ text, Rejects node text := by
  cases hcpu : node.cpu with
  | none => exact .inl ⟨0, .silent hcpu⟩
  | some text =>
    cases hread : Quantity.parse? text with
    | none => exact .inr ⟨text, .malformed hcpu hread⟩
    | some q =>
      by_cases hneg : q.nanos < 0
      · exact .inr ⟨text, .negative hcpu hread hneg⟩
      · exact .inl ⟨q.nanos, .counted hcpu hread (Int.not_lt.mp hneg)⟩

lemma addNode_of_rejects {node : Node} {text : String} (total : Quantity)
    (h : Rejects node text) : addNode total node = .error (.invalidQuantity node.label text) := by
  cases h with
  | malformed reported unread => simp [addNode, reported, unread]
  | negative reported read neg => simp [addNode, reported, read, Option.filter, Quantity.isNegative, neg]

lemma add?_of_fits {a b : ℤ} (ha : 0 ≤ a) (hb : 0 ≤ b) (h : a + b ≤ 2 ^ 127 - 1) :
    Quantity.add? ⟨a⟩ ⟨b⟩ = some ⟨a + b⟩ :=
  Quantity.add?_eq_some_iff.mpr ⟨rfl, by simp only [Quantity.minNanos]; omega, h⟩

lemma add?_of_exceeds {a b : ℤ} (h : 2 ^ 127 - 1 < a + b) : Quantity.add? ⟨a⟩ ⟨b⟩ = none := by
  have hmax : ¬a + b ≤ (Quantity.maxNanos : ℤ) := Int.not_le.mpr h
  simp [Quantity.add?, hmax]

lemma addNode_of_fits {node : Node} {total n : ℤ} (h : Adds node n) (htotal : 0 ≤ total)
    (hfits : total + n ≤ 2 ^ 127 - 1) : addNode ⟨total⟩ node = .ok ⟨total + n⟩ := by
  have hn := h.nonneg
  cases h with
  | silent unreported => simp [addNode, unreported]
  | counted reported read nonneg =>
    simp [addNode, reported, read, Option.filter, Quantity.isNegative, Int.not_lt.mpr nonneg,
      add?_of_fits htotal hn hfits]

lemma addNode_of_exceeds {node : Node} {total n : ℤ} (h : Adds node n)
    (htotal : total ≤ 2 ^ 127 - 1) (hexceeds : 2 ^ 127 - 1 < total + n) :
    addNode ⟨total⟩ node = .error .capacityOverflow := by
  cases h with
  | silent _ => omega
  | counted reported read nonneg =>
    simp [addNode, reported, read, Option.filter, Quantity.isNegative, Int.not_lt.mpr nonneg,
      add?_of_exceeds hexceeds]

lemma Walk.bounds {nodes : List Node} {total : ℤ} (h : Walk nodes total) :
    0 ≤ total ∧ total ≤ 2 ^ 127 - 1 := by
  induction h with
  | start => omega
  | step before adds fits ih =>
    have hn := adds.nonneg
    omega

theorem Walk.foldlM_eq {nodes : List Node} {total : ℤ} (h : Walk nodes total) :
    nodes.foldlM addNode Quantity.zero = .ok ⟨total⟩ := by
  induction h with
  | start => rfl
  | step before adds fits ih =>
    rw [List.foldlM_append, ih]
    have hstep := addNode_of_fits adds before.bounds.1 fits
    simp [bind, Except.bind, hstep, pure, Except.pure]

lemma Walk.foldlM_eq_error {before after : List Node} {node : Node} {total : ℤ} {e : Failure}
    (h : Walk before total) (hstop : addNode ⟨total⟩ node = .error e) :
    (before ++ node :: after).foldlM addNode Quantity.zero = .error e := by
  rw [List.foldlM_append, h.foldlM_eq]
  simp [bind, Except.bind, hstop]

lemma walk_or_stops (nodes : List Node) :
    (∃ total, Walk nodes total) ∨ ∃ before node after total, nodes = before ++ node :: after ∧
      Walk before total ∧
        ((∃ text, Rejects node text) ∨ ∃ n, Adds node n ∧ 2 ^ 127 - 1 < total + n) := by
  induction nodes using List.reverseRecOn with
  | nil => exact .inl ⟨0, .start⟩
  | append_singleton nodes node ih =>
    rcases ih with ⟨total, hwalk⟩ | ⟨before, stop, after, total, hcut, hwalk, hstop⟩
    · rcases adds_or_rejects node with ⟨n, hadds⟩ | hrejects
      · by_cases hfits : total + n ≤ 2 ^ 127 - 1
        · exact .inl ⟨total + n, hwalk.step hadds hfits⟩
        · exact .inr ⟨nodes, node, [], total, rfl, hwalk, .inr ⟨n, hadds, Int.not_le.mp hfits⟩⟩
      · exact .inr ⟨nodes, node, [], total, rfl, hwalk, .inl hrejects⟩
    · exact .inr ⟨before, stop, after ++ [node], total, by simp [hcut], hwalk, hstop⟩

lemma Walk.exists_sum {nodes : List Node} {total : ℤ} (h : Walk nodes total) :
    ∃ ns, List.Forall₂ Adds nodes ns ∧ ns.sum = total := by
  induction h with
  | start => exact ⟨[], .nil, rfl⟩
  | @step _ _ _ n before adds fits ih =>
    obtain ⟨ns, hall, rfl⟩ := ih
    exact ⟨ns ++ [n], List.rel_append hall (.cons adds .nil), by simp⟩

lemma sum_nonneg_of_adds {nodes : List Node} {ns : List ℤ} (h : List.Forall₂ Adds nodes ns) :
    0 ≤ ns.sum := by
  induction h with
  | nil => exact le_rfl
  | cons adds _ ih =>
    rw [List.sum_cons]
    exact add_nonneg adds.nonneg ih

lemma Walk.append {before nodes : List Node} {total : ℤ} {ns : List ℤ} (h : Walk before total)
    (hall : List.Forall₂ Adds nodes ns) (hfits : total + ns.sum ≤ 2 ^ 127 - 1) :
    Walk (before ++ nodes) (total + ns.sum) := by
  induction hall generalizing before total with
  | nil => simpa using h
  | @cons node n nodes ns adds hrest ih =>
    have hsum := sum_nonneg_of_adds hrest
    rw [List.sum_cons, ← add_assoc] at hfits ⊢
    have hnext := ih (h.step adds (by omega)) hfits
    rwa [List.append_assoc, List.singleton_append] at hnext

lemma coresOfTotal_of_broken {total : ℤ} (h : ¬10 ^ 9 ∣ total) :
    coresOfTotal ⟨total⟩ = .error (.nonIntegralCores total) := by
  have hnone : Quantity.wholeUnits? ⟨total⟩ = none := by
    rw [Option.eq_none_iff_forall_ne_some]
    intro n hn
    exact h (Dvd.intro_left n (Quantity.wholeUnits?_eq_some_iff.mp hn).symm)
  rw [coresOfTotal, hnone]

lemma coresOfTotal_mul (cores : ℤ) :
    coresOfTotal ⟨cores * 10 ^ 9⟩ =
      if 0 ≤ cores ∧ cores ≤ 2 ^ 64 - 1 then .ok cores.toNat
      else .error (.coreTotalOutOfRange cores) := by
  have hwhole : Quantity.wholeUnits? ⟨cores * 10 ^ 9⟩ = some cores :=
    Quantity.wholeUnits?_eq_some_iff.mpr rfl
  rw [coresOfTotal, hwhole]
  rfl

lemma ofNodes_of_error {nodes : List Node} {e : Failure}
    (h : nodes.foldlM addNode Quantity.zero = .error e) : ofNodes nodes = .error e := by
  simp [ofNodes, h, bind, Except.bind]

lemma ofNodes_of_ok {nodes : List Node} {total : Quantity}
    (h : nodes.foldlM addNode Quantity.zero = .ok total) :
    ofNodes nodes = (coresOfTotal total).map (⟨nodes.length, ·⟩) := by
  simp only [ofNodes, h, bind, Except.bind]
  cases coresOfTotal total <;> rfl

lemma Outcome.ofNodes_eq {nodes : List Node} {r : Except Failure ClusterSize}
    (h : Outcome nodes r) : ofNodes nodes = r := by
  cases h with
  | invalid cut walked rejected =>
    subst cut
    exact ofNodes_of_error (walked.foldlM_eq_error (addNode_of_rejects _ rejected))
  | overflow cut walked adds exceeds =>
    subst cut
    exact ofNodes_of_error
      (walked.foldlM_eq_error (addNode_of_exceeds adds walked.bounds.2 exceeds))
  | fractional walked broken =>
    rw [ofNodes_of_ok walked.foldlM_eq, coresOfTotal_of_broken broken]
    rfl
  | outOfRange walked large =>
    rw [ofNodes_of_ok walked.foldlM_eq, coresOfTotal_mul, if_neg (by omega)]
    rfl
  | @counted cores walked small =>
    have hrange : (0 : ℤ) ≤ cores ∧ (cores : ℤ) ≤ 2 ^ 64 - 1 := by omega
    rw [ofNodes_of_ok walked.foldlM_eq, coresOfTotal_mul, if_pos hrange]
    rfl

lemma exists_outcome (nodes : List Node) : ∃ r, Outcome nodes r := by
  rcases walk_or_stops nodes with
    ⟨total, hwalk⟩ | ⟨before, node, after, total, hcut, hwalk, ⟨text, hrejects⟩ | ⟨n, hadds, hn⟩⟩
  · by_cases hwhole : 10 ^ 9 ∣ total
    · obtain ⟨cores, rfl⟩ := exists_eq_mul_left_of_dvd hwhole
      have hbounds := hwalk.bounds
      by_cases hsmall : cores ≤ 2 ^ 64 - 1
      · obtain ⟨c, rfl⟩ := Int.eq_ofNat_of_zero_le (show 0 ≤ cores by omega)
        exact ⟨_, .counted hwalk (by omega)⟩
      · exact ⟨_, .outOfRange hwalk (Int.not_le.mp hsmall)⟩
    · exact ⟨_, .fractional hwalk hwhole⟩
  · exact ⟨_, .invalid hcut hwalk hrejects⟩
  · exact ⟨_, .overflow hcut hwalk hadds hn⟩

/-- The size is exact, and the failure is that of the first node at which the walk stops. -/
theorem ofNodes_eq_iff (nodes : List Node) :
    (∀ r, ofNodes nodes = r ↔ Outcome nodes r) ∧
    ∀ size, ofNodes nodes = .ok size ↔
      size.nodes = nodes.length ∧ size.cores ≤ 2 ^ 64 - 1 ∧
        ∃ ns, List.Forall₂ Adds nodes ns ∧ ns.sum = size.cores * 10 ^ 9 := by
  have houtcome : ∀ r, ofNodes nodes = r ↔ Outcome nodes r := by
    intro r
    constructor
    · rintro rfl
      obtain ⟨r, hr⟩ := exists_outcome nodes
      rwa [hr.ofNodes_eq]
    · exact Outcome.ofNodes_eq
  refine ⟨houtcome, fun size => ?_⟩
  obtain ⟨count, cores⟩ := size
  rw [houtcome]
  constructor
  · rintro (_ | _ | _ | _ | ⟨walked, small⟩)
    exact ⟨rfl, small, walked.exists_sum⟩
  · rintro ⟨rfl, small, ns, hall, hsum⟩
    have hsmall : cores ≤ 2 ^ 64 - 1 := small
    have hsum : ns.sum = (cores : ℤ) * 10 ^ 9 := hsum
    have hwalk := Walk.start.append hall (by omega)
    rw [zero_add, hsum] at hwalk
    exact .counted hwalk small

end WorkloadScaling.ClusterSize
