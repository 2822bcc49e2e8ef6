import WorkloadScaling.Proofs.JsonTokens
import WorkloadScaling.Proofs.RequirementsDocument

/-!
# Reading what is written

In either layout a value is read back from its text as it was. Reading is shown for a value that
stands at any depth of a text, with any number of steps that is no less than the value is long.
-/
namespace WorkloadScaling.Json

lemma skipSpace_gap (layout : Layout) (depth : ℕ) (s : List Char) :
    skipSpace (layout.gap depth ++ s) = skipSpace s := by
  refine List.dropWhile_append_of_pos fun c hc => ?_
  cases layout with
  | compact => cases hc
  | indented =>
    obtain rfl | hc := List.mem_cons.mp hc
    · rfl
    · rw [List.eq_of_mem_replicate hc]
      rfl

lemma skipSpace_cons {c : Char} (hc : isSpace c = false) (s : List Char) :
    skipSpace (c :: s) = c :: s :=
  List.dropWhile_cons_of_neg (by simp [hc])

lemma readValue_skipSpace (fuel : ℕ) (s : List Char) :
    readValue fuel (skipSpace s) = readValue fuel s := by
  cases fuel with
  | zero => rfl
  | succ fuel =>
    have hidem : skipSpace (skipSpace s) = skipSpace s := List.dropWhile_idempotent isSpace s
    rw [readValue, readValue, hidem]

lemma readValue_number {c : Char} (hc : StartsNumber c) (fuel : ℕ) (s : List Char) :
    readValue (fuel + 1) (c :: s) = readNumber (c :: s) := by
  have hspace : isSpace c = false := by
    unfold isSpace
    have hblank := hc.ne (d := ' ') (by decide) rfl
    have htab := hc.ne (d := '\t') (by decide) rfl
    have hnewline := hc.ne (d := '\n') (by decide) rfl
    have hreturn := hc.ne (d := '\r') (by decide) rfl
    simp [hblank, htab, hnewline, hreturn]
  rw [readValue, skipSpace_cons hspace]
  split
  case h_7 => rfl
  -- Nothing else that begins a value begins a number.
  all_goals next heq => exact absurd (List.cons.inj heq).1 (hc.ne (by decide) rfl)

lemma readValue_array {fuel : ℕ} {s s' rest : List Char} {item : Json} {items : List Json}
    (hitem : readValue fuel s = some (item, s')) (hitems : readItems fuel s' = some (items, rest)) :
    readValue (fuel + 1) ('[' :: s) = some (.array (item :: items), rest) := by
  have hopen : ∀ t, skipSpace s ≠ ']' :: t := by
    intro t ht
    rw [← readValue_skipSpace, ht] at hitem
    cases fuel with
    | zero => cases hitem
    | succ fuel => cases hitem
  rw [← readValue_skipSpace] at hitem
  rw [readValue, skipSpace_cons rfl]
  simp [hitem, hitems]

lemma readMember_skipSpace (fuel : ℕ) (s : List Char) :
    readMember fuel (skipSpace s) = readMember fuel s := by
  cases fuel with
  | zero => rfl
  | succ fuel =>
    have hidem : skipSpace (skipSpace s) = skipSpace s := List.dropWhile_idempotent isSpace s
    rw [readMember, readMember, hidem]

lemma readValue_object {fuel : ℕ} {s s' rest : List Char} {member : Option String × Json}
    {members : List (Option String × Json)} (hmember : readMember fuel s = some (member, s'))
    (hmembers : readMembers fuel s' = some (members, rest)) :
    readValue (fuel + 1) ('\x7b' :: s) = some (ofKeyed (member :: members), rest) := by
  have hopen : ∀ t, skipSpace s ≠ '\x7d' :: t := by
    intro t ht
    rw [← readMember_skipSpace, ht] at hmember
    cases fuel with
    | zero => cases hmember
    | succ fuel => cases hmember
  rw [← readMember_skipSpace] at hmember
  rw [readValue, skipSpace_cons rfl]
  simp [hmember, hmembers]

lemma endsNumber_cons {c : Char} (hc : c.isDigit = false ∧ c ≠ '.' ∧ c ≠ 'e' ∧ c ≠ 'E')
    (s : List Char) : EndsNumber (c :: s) := by
  rintro d hd
  rwa [← Option.some.inj hd]

lemma endsNumber_gap (layout : Layout) (depth : ℕ) {s : List Char} (h : EndsNumber s) :
    EndsNumber (layout.gap depth ++ s) := by
  cases layout with
  | compact => exact h
  | indented => exact endsNumber_cons (by decide) _

/-- In a layout a value is read from its text as it was, wherever the text stands. -/
def ReadsBack (layout : Layout) (v : Json) : Prop :=
  ∀ depth fuel rest, (write layout depth v).length ≤ fuel → EndsNumber rest →
    readValue fuel (write layout depth v ++ rest) = some (v, rest)

variable {layout : Layout}

lemma readsBack_of_step {v : Json} (hwrite : ∀ depth, write layout depth v ≠ [])
    (hread : ∀ depth fuel rest, (write layout depth v).length ≤ fuel + 1 → EndsNumber rest →
      readValue (fuel + 1) (write layout depth v ++ rest) = some (v, rest)) :
    ReadsBack layout v := by
  intro depth fuel rest hfuel hrest
  cases fuel with
  | zero => exact absurd (List.eq_nil_of_length_eq_zero (Nat.le_zero.mp hfuel)) (hwrite depth)
  | succ fuel => exact hread depth fuel rest hfuel hrest

lemma readsBack_number {v : Json} {s : List Char} (hwrite : ∀ depth, write layout depth v = s)
    (hstart : ∃ c t, s = c :: t ∧ StartsNumber c)
    (hread : ∀ rest, EndsNumber rest → readNumber (s ++ rest) = some (v, rest)) :
    ReadsBack layout v := by
  obtain ⟨c, t, rfl, hc⟩ := hstart
  refine readsBack_of_step (fun depth => hwrite depth ▸ List.cons_ne_nil c t) ?_
  intro depth fuel rest _ hrest
  rw [hwrite]
  exact (readValue_number hc fuel (t ++ rest)).trans (hread rest hrest)

lemma readsBack_string (s : String) : ReadsBack layout (.string s) := by
  refine readsBack_of_step (fun _ => List.cons_ne_nil _ _) ?_
  intro depth fuel rest _ _
  have hread := readString_escaped s rest
  rw [write, writeString, List.cons_append, List.append_assoc, List.singleton_append, readValue,
    skipSpace_cons rfl]
  simp [hread, ofString?]

lemma readValue_gap (layout : Layout) (depth fuel : ℕ) (s : List Char) :
    readValue fuel (layout.gap depth ++ s) = readValue fuel s := by
  rw [← readValue_skipSpace, skipSpace_gap, readValue_skipSpace]

lemma readItems_close (layout : Layout) (depth fuel : ℕ) (rest : List Char) :
    readItems (fuel + 1) (layout.gap depth ++ ']' :: rest) = some ([], rest) := by
  have hskip : skipSpace (layout.gap depth ++ ']' :: rest) = ']' :: rest :=
    (skipSpace_gap layout depth _).trans (skipSpace_cons rfl rest)
  simp [readItems, hskip]

lemma readItems_comma {fuel : ℕ} {s s' rest : List Char} {item : Json} {items : List Json}
    (hitem : readValue fuel s = some (item, s')) (hitems : readItems fuel s' = some (items, rest)) :
    readItems (fuel + 1) (',' :: s) = some (item :: items, rest) := by
  simp [readItems, skipSpace_cons, isSpace, hitem, hitems]

lemma endsNumber_items (layout : Layout) (depth outer : ℕ) (items : List Json)
    (rest : List Char) :
    EndsNumber (writeItems layout depth true items ++ (layout.gap outer ++ ']' :: rest)) := by
  cases items with
  | nil => exact endsNumber_gap layout outer (endsNumber_cons (by decide) rest)
  | cons item items => exact endsNumber_cons (by decide) _

lemma readItems_writeItems {items : List Json} (h : ∀ item ∈ items, ReadsBack layout item)
    (depth outer fuel : ℕ) (rest : List Char)
    (hfuel : (writeItems layout depth true items).length < fuel) :
    readItems fuel (writeItems layout depth true items ++ (layout.gap outer ++ ']' :: rest)) =
      some (items, rest) := by
  induction items generalizing fuel with
  | nil =>
    obtain _ | fuel := fuel
    · cases hfuel
    · exact readItems_close layout outer fuel rest
  | cons item items ih =>
    obtain _ | fuel := fuel
    · cases hfuel
    · rw [List.forall_mem_cons] at h
      obtain ⟨hitem, hitems⟩ := h
      simp only [writeItems, if_true, List.length_append, List.length_singleton] at hfuel
      have hfirst := hitem depth fuel _ (by omega) (endsNumber_items layout depth outer items rest)
      have hothers := ih hitems fuel (by omega)
      rw [← readValue_gap layout depth] at hfirst
      simpa [writeItems] using readItems_comma hfirst hothers

lemma readsBack_array {items : List Json} (h : ∀ item ∈ items, ReadsBack layout item) :
    ReadsBack layout (.array items) := by
  refine readsBack_of_step (fun _ => List.cons_ne_nil _ _) ?_
  intro depth fuel rest hfuel _
  cases items with
  | nil => rfl
  | cons item items =>
    rw [List.forall_mem_cons] at h
    obtain ⟨hitem, hitems⟩ := h
    simp only [write, writeItems, List.length_append, List.length_cons] at hfuel
    have hfirst := hitem (depth + 1) fuel _ (by omega)
      (endsNumber_items layout (depth + 1) depth items rest)
    have hothers := readItems_writeItems hitems (depth + 1) depth fuel rest (by omega)
    rw [← readValue_gap layout (depth + 1)] at hfirst
    simpa [write, writeItems] using readValue_array hfirst hothers

lemma readMember_gap (layout : Layout) (depth fuel : ℕ) (s : List Char) :
    readMember fuel (layout.gap depth ++ s) = readMember fuel s := by
  rw [← readMember_skipSpace, skipSpace_gap, readMember_skipSpace]

lemma readMembers_close (layout : Layout) (depth fuel : ℕ) (rest : List Char) :
    readMembers (fuel + 1) (layout.gap depth ++ '\x7d' :: rest) = some ([], rest) := by
  have hskip : skipSpace (layout.gap depth ++ '\x7d' :: rest) = '\x7d' :: rest :=
    (skipSpace_gap layout depth _).trans (skipSpace_cons rfl rest)
  simp [readMembers, hskip]

lemma readMembers_comma {fuel : ℕ} {s s' rest : List Char} {member : Option String × Json}
    {members : List (Option String × Json)} (hmember : readMember fuel s = some (member, s'))
    (hmembers : readMembers fuel s' = some (members, rest)) :
    readMembers (fuel + 1) (',' :: s) = some (member :: members, rest) := by
  simp [readMembers, skipSpace_cons, isSpace, hmember, hmembers]

lemma endsNumber_members (layout : Layout) (depth outer : ℕ) (members : List (String × Json))
    (rest : List Char) :
    EndsNumber (writeMembers layout depth true members ++
      (layout.gap outer ++ '\x7d' :: rest)) := by
  cases members with
  | nil => exact endsNumber_gap layout outer (endsNumber_cons (by decide) rest)
  | cons member members => exact endsNumber_cons (by decide) _

lemma exists_colon_eq_cons (layout : Layout) :
    ∃ blanks, layout.colon = ':' :: blanks ∧
      ∀ fuel s, readValue fuel (blanks ++ s) = readValue fuel s := by
  cases layout with
  | compact => exact ⟨[], rfl, fun _ _ => rfl⟩
  | indented =>
    refine ⟨[' '], rfl, fun fuel s => ?_⟩
    rw [← readValue_skipSpace fuel s, ← readValue_skipSpace]
    rfl

lemma readMember_colon {fuel : ℕ} {s rest : List Char} {value : Json} (key : String)
    (hvalue : readValue fuel s = some (value, rest)) :
    readMember (fuel + 1) (writeString key ++ ':' :: s) = some ((some key, value), rest) := by
  have hkey := readString_escaped key (':' :: s)
  have hcolon : skipSpace (':' :: s) = ':' :: s := skipSpace_cons rfl s
  rw [writeString, List.cons_append, List.append_assoc, List.singleton_append, readMember,
    skipSpace_cons rfl]
  simp [hkey, hcolon, hvalue]

lemma readMember_writeMember {member : String × Json} (h : ReadsBack layout member.2)
    (depth fuel : ℕ) {rest : List Char} (hrest : EndsNumber rest)
    (hfuel : (writeMember layout depth member).length ≤ fuel) :
    readMember fuel (writeMember layout depth member ++ rest) =
      some ((some member.1, member.2), rest) := by
  obtain ⟨key, value⟩ := member
  dsimp only at h
  obtain _ | fuel := fuel
  · cases hfuel
  · obtain ⟨blanks, hcolon, hblanks⟩ := exists_colon_eq_cons layout
    simp only [writeMember, writeString, List.length_append, List.length_cons] at hfuel
    have hvalue := h depth fuel rest (by omega) hrest
    rw [← hblanks] at hvalue
    simpa [writeMember, hcolon] using readMember_colon key hvalue

lemma readMembers_writeMembers {members : List (String × Json)}
    (h : ∀ m ∈ members, ReadsBack layout m.2) (depth outer fuel : ℕ) (rest : List Char)
    (hfuel : (writeMembers layout depth true members).length < fuel) :
    readMembers fuel (writeMembers layout depth true members ++
      (layout.gap outer ++ '\x7d' :: rest)) =
      some (members.map fun m => (some m.1, m.2), rest) := by
  induction members generalizing fuel with
  | nil =>
    obtain _ | fuel := fuel
    · cases hfuel
    · exact readMembers_close layout outer fuel rest
  | cons member members ih =>
    obtain _ | fuel := fuel
    · cases hfuel
    · rw [List.forall_mem_cons] at h
      obtain ⟨hmember, hmembers⟩ := h
      simp only [writeMembers, if_true, List.length_append, List.length_singleton] at hfuel
      have hfirst := readMember_writeMember hmember depth fuel
        (endsNumber_members layout depth outer members rest) (by omega)
      have hothers := ih hmembers fuel (by omega)
      rw [← readMember_gap layout depth] at hfirst
      simpa [writeMembers] using readMembers_comma hfirst hothers

lemma ofKeyed_some (members : List (String × Json)) :
    ofKeyed (members.map fun m => (some m.1, m.2)) = .object members := by
  rw [ofKeyed, mapM_map_of_reads fun m => ?_, List.map_id]
  rfl

lemma readsBack_object {members : List (String × Json)}
    (h : ∀ m ∈ members, ReadsBack layout m.2) : ReadsBack layout (.object members) := by
  refine readsBack_of_step (fun _ => List.cons_ne_nil _ _) ?_
  intro depth fuel rest hfuel _
  cases members with
  | nil => rfl
  | cons member members =>
    rw [List.forall_mem_cons] at h
    obtain ⟨hmember, hmembers⟩ := h
    simp only [write, writeMembers, List.length_append, List.length_cons] at hfuel
    have hfirst := readMember_writeMember hmember (depth + 1) fuel
      (endsNumber_members layout (depth + 1) depth members rest) (by omega)
    have hothers := readMembers_writeMembers hmembers (depth + 1) depth fuel rest (by omega)
    have hkeyed := ofKeyed_some (member :: members)
    rw [← readMember_gap layout (depth + 1)] at hfirst
    rw [List.map_cons] at hkeyed
    have hread := readValue_object hfirst hothers
    rw [hkeyed] at hread
    simpa [write, writeMembers] using hread

mutual

theorem readsBack (layout : Layout) : (v : Json) → ReadsBack layout v
  | .null => readsBack_of_step (fun _ => List.cons_ne_nil _ _) fun _ _ _ _ _ => rfl
  | .bool true => readsBack_of_step (fun _ => List.cons_ne_nil _ _) fun _ _ _ _ _ => rfl
  | .bool false => readsBack_of_step (fun _ => List.cons_ne_nil _ _) fun _ _ _ _ _ => rfl
  | .integer n => readsBack_number (fun _ => rfl) (exists_integerDigits_eq_cons n) fun _ =>
      readNumber_integerDigits n
  | .decimal d => readsBack_number (fun _ => rfl) (exists_writeDecimal_eq_cons d) fun _ =>
      readNumber_writeDecimal d
  | .string s => readsBack_string s
  | .unreadable => readsBack_of_step (fun _ => List.cons_ne_nil _ _) fun _ _ _ _ _ => rfl
  | .array items => readsBack_array (readsBack_items layout items)
  | .object members => readsBack_object (readsBack_members layout members)
termination_by structural v => v

theorem readsBack_items (layout : Layout) : (items : List Json) → ∀ v ∈ items, ReadsBack layout v
  | [] => fun _ hv => absurd hv List.not_mem_nil
  | item :: items =>
    List.forall_mem_cons.mpr ⟨readsBack layout item, readsBack_items layout items⟩
termination_by structural items => items

theorem readsBack_members (layout : Layout) :
    (members : List (String × Json)) → ∀ m ∈ members, ReadsBack layout m.2
  | [] => fun _ hm => absurd hm List.not_mem_nil
  | member :: members =>
    List.forall_mem_cons.mpr ⟨readsBack_member layout member, readsBack_members layout members⟩
termination_by structural members => members

theorem readsBack_member (layout : Layout) : (m : String × Json) → ReadsBack layout m.2
  | (_, value) => readsBack layout value
termination_by structural m => m

end

theorem parse?_text (layout : Layout) (v : Json) : parse? (v.text layout) = some v := by
  have hlength : (v.text layout).length = (write layout 0 v).length := String.length_ofList
  have hread := readsBack layout v 0 (2 * (v.text layout).length + 2) [] (by omega) nofun
  have htext : (v.text layout).toList = write layout 0 v := String.toList_ofList
  rw [List.append_nil, ← htext] at hread
  rw [parse?, hread]
  exact if_pos rfl

/-- No two values share a text, not even across layouts. -/
theorem text_injective {layout layout' : Layout} {v v' : Json}
    (h : v.text layout = v'.text layout') : v = v' := by
  have hread := parse?_text layout v
  rw [h, parse?_text] at hread
  exact (Option.some.inj hread).symm

/-- A document is read from its text in canonical form, if it can be read at all. -/
theorem document?_text (layout : Layout) (v : Json) :
    document? (v.text layout) =
      if v.isReadable ∧ v.depth ≤ maxDepth then some v.canonical else none := by
  rw [document?, parse?_text, Option.bind_some]

end WorkloadScaling.Json
