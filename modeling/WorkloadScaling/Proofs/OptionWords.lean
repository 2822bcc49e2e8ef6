import Mathlib
import WorkloadScaling.CommandLine.Help
import WorkloadScaling.CommandLine.Parser

/-!
# Options as words

The options of a command line written out in words, in every form that an option can take, and
what is read of them. An option counts as read when its value is, though it takes effect later.
-/
namespace WorkloadScaling.CommandLine

def Setting.name : Setting → String
  | nspace => "namespace"
  | target => "target"
  | kubeconfig => "kubeconfig"
  | format => "format"
  | resources => "resources"

def Setting.letter? : Setting → Option Char
  | nspace => some 'n'
  | target => some 't'
  | kubeconfig => none
  | format => some 'f'
  | resources => some 'r'

def Choice.isShared : Choice → Bool
  | .setting .nspace | .setting .target | .setting .kubeconfig | .switch .verbose => true
  | _ => false

def Level.hasOwn : Level → Choice → Bool
  | .clusterSize, .setting .format | .target, .setting .format | .update, .setting .resources
  | .update, .switch .dryRun => true
  | _, _ => false

def Level.takes (level : Level) (c : Choice) : Bool := c.isShared || level.hasOwn c

/-- How a setting is written with its value, such as `--namespace=apps`, `--namespace apps`,
`-n=apps`, `-napps` and `-n apps`. -/
inductive Form where
  | equals
  | apart
  | letterEquals (c : Char)
  | letterJoined (c : Char)
  | letterApart (c : Char)
  deriving DecidableEq, Repr

def Form.words (s : Setting) (value : String) : Form → List String
  | equals => ["--" ++ s.name ++ "=" ++ value]
  | apart => ["--" ++ s.name, value]
  | letterEquals c => [String.ofList ('-' :: c :: '=' :: value.toList)]
  | letterJoined c => [String.ofList ('-' :: c :: value.toList)]
  | letterApart c => [String.ofList ['-', c], value]

/-- Whether a word is read as an option. A dash alone is none. -/
def looksLikeOption (word : String) : Bool :=
  match word.toList with
  | '-' :: _ :: _ => true
  | _ => false

def Form.carries (s : Setting) (value : String) : Form → Bool
  | equals => true
  | apart => !looksLikeOption value
  | letterEquals c => s.letter? == some c
  | letterJoined c => s.letter? == some c && value != "" && value.toList.head? != some '='
  | letterApart c => s.letter? == some c && !looksLikeOption value

/-- An option that is given. The letter `v` may have more of its kind in the same word. -/
inductive Given where
  | value (s : Setting) (form : Form) (value : String)
  | verbose
  | verboseLetters (more : ℕ)
  | dryRun
  deriving DecidableEq, Repr

namespace Given

def words : Given → List String
  | value s form v => form.words s v
  | verbose => ["--verbose"]
  | verboseLetters more => [String.ofList ('-' :: 'v' :: List.replicate more 'v')]
  | dryRun => ["--dry-run"]

def choice : Given → Choice
  | value s _ _ => .setting s
  | verbose | verboseLetters _ => .switch .verbose
  | dryRun => .switch .dryRun

def value? (s : Setting) : Given → Option String
  | value t _ v => if t = s then some v else none
  | verbose | verboseLetters _ | dryRun => none

def isWellFormed : Given → Bool
  | value s form v => (!s.isPath || v != "") && form.carries s v
  | verbose | verboseLetters _ | dryRun => true

def clashes (g h : Given) : Bool := g.choice == h.choice && g.choice != .switch .verbose

end Given

def words (givens : List Given) : List String := givens.flatMap Given.words

def valueIn (givens : List Given) (s : Setting) : Option String := givens.findSome? (Given.value? s)

/-- The value that a setting is given behind a command, or else in front of it. -/
def valueAround (before after : List Given) (s : Setting) : Option String :=
  valueIn after s <|> valueIn before s

/-- Options of a kind in any order, each given once. -/
structure Proper (kind : Choice → Bool) (givens : List Given) : Prop where
  ofKind : ∀ g ∈ givens, kind g.choice = true
  wellFormed : ∀ g ∈ givens, g.isWellFormed = true
  once : givens.Pairwise fun g h => g.clashes h = false

variable {level : Level} {s : Setting} {c : Char}

lemma long?_name (h : level.takes (.setting s) = true) :
    level.long? s.name.toList = some (.setting s) := by
  revert h
  cases level <;> cases s <;> decide

lemma short?_letter (h : level.takes (.setting s) = true) (hc : s.letter? = some c) :
    level.short? c = some (.setting s) := by
  cases s <;> cases hc <;> revert h <;> cases level <;> decide

lemma long?_verbose : level.long? "verbose".toList = some (.switch .verbose) := by
  cases level <;> decide

lemma long?_dryRun : Level.update.long? "dry-run".toList = some (.switch .dryRun) := by decide

lemma short?_verbose : level.short? 'v' = some (.switch .verbose) := by
  cases level <;> decide

lemma equals_notMem_name : '=' ∉ s.name.toList := by
  cases s <;> decide

lemma name_ne_nil : s.name.toList ≠ [] := by
  cases s <;> decide

lemma letter_ne_dash (hc : s.letter? = some c) : c ≠ '-' := by
  cases s <;> cases hc <;> decide

lemma valueIn_append (givens more : List Given) (s : Setting) :
    valueIn (givens ++ more) s = (valueIn givens s).or (valueIn more s) :=
  List.findSome?_append

lemma valueIn_singleton (g : Given) (s : Setting) : valueIn [g] s = g.value? s := by
  simp [valueIn]

lemma valueIn_eq_none_iff {givens : List Given} :
    valueIn givens s = none ↔ ∀ form v, .value s form v ∉ givens := by
  rw [valueIn, List.findSome?_eq_none_iff]
  constructor
  · intro h form v hmem
    simpa [Given.value?] using h _ hmem
  · intro h g hg
    cases g with
    | value t form v =>
      refine if_neg ?_
      rintro rfl
      exact h form v hg
    | verbose => rfl
    | verboseLetters => rfl
    | dryRun => rfl

namespace Gathered

variable {g m m' : Gathered} {v : String} {givens : List Given}

lemma lookup_cons (values : List (Setting × String)) (s t : Setting) (v : String) :
    ((s, v) :: values).lookup t = if s = t then some v else values.lookup t := by
  rw [List.lookup_cons]
  split
  · next h => rw [if_pos (beq_iff_eq.mp h).symm]
  · next h => rw [if_neg (Ne.symm (beq_eq_false_iff_ne.mp h))]

lemma assign_eq_ok (h : m.assign s v = .ok m') :
    m' = { m with values := (s, v) :: m.values } := by
  unfold assign at h
  split at h
  · cases h
  · split at h
    · cases h
    · exact (Except.ok.inj h).symm

lemma assign_of_new (hnew : m.value? s = none) (hpath : s.isPath = false ∨ v ≠ "") :
    m.assign s v = .ok { m with values := (s, v) :: m.values } := by
  have hgiven : ¬(m.value? s).isSome = true := by simp [hnew]
  have hempty : ¬(s.isPath = true ∧ v = "") := by
    rintro ⟨hp, hv⟩
    simp [hp, hv] at hpath
  rw [assign, if_neg hgiven, if_neg hempty]

lemma pending_of_settle (h : g.settle = .ok m) : m.pending = none := by
  unfold settle at h
  split at h
  · next hnone =>
    obtain rfl := Except.ok.inj h
    exact hnone
  · cases h
  · rw [assign_eq_ok h]

lemma settle_of_pending (h : m.pending = none) : m.settle = .ok m := by
  unfold settle
  rw [h]

lemma not_isWaiting_of_settle (h : g.settle = .ok m) : g.isWaiting = false := by
  unfold settle at h
  unfold isWaiting
  split
  · next hwait =>
    rw [hwait] at h
    cases h
  · rfl

lemma settle_receive (h : m.pending = none) (s : Setting) (v : String) :
    (receive { m with pending := some (s, none) } v).settle = m.assign s v := by
  obtain ⟨values, verbosity, dryRun, pending⟩ := m
  cases h
  rfl

structure Tells (m : Gathered) (givens : List Given) : Prop where
  value : ∀ s, m.value? s = valueIn givens s
  dryRun : m.dryRun = true ↔ .dryRun ∈ givens

/-- What has been read once the last option has taken effect. -/
def Holds (g : Gathered) (givens : List Given) : Prop := ∃ m, g.settle = .ok m ∧ m.Tells givens

lemma Tells.holds (h : m.Tells givens) (hm : m.pending = none) : m.Holds givens :=
  ⟨m, settle_of_pending hm, h⟩

lemma Tells.assign {form : Form} (h : m.Tells givens) (hnew : m.value? s = none) :
    Tells { m with values := (s, v) :: m.values } (givens ++ [.value s form v]) := by
  constructor
  · intro t
    rw [valueIn_append, valueIn_singleton, ← h.value, value?, lookup_cons, Given.value?]
    by_cases hst : s = t
    · subst hst
      simp [hnew]
    · simp [hst, value?]
  · simp [h.dryRun]

lemma Tells.verbose {given : Given} (h : m.Tells givens) (hgiven : given.choice = .switch .verbose)
    (n : Option ℕ) : Tells { m with verbosity := n } (givens ++ [given]) := by
  have hvalue : ∀ s, given.value? s = none := by
    intro s
    cases given with
    | value => cases hgiven
    | verbose => rfl
    | verboseLetters => rfl
    | dryRun => rfl
  have hne : Given.dryRun ≠ given := by
    rintro rfl
    cases hgiven
  constructor
  · intro t
    rw [valueIn_append, valueIn_singleton, hvalue, Option.or_none]
    exact h.value t
  · simp [h.dryRun, hne]

lemma Tells.switchDryRun (h : m.Tells givens) :
    Tells { m with dryRun := true } (givens ++ [.dryRun]) := by
  constructor
  · intro t
    rw [valueIn_append, valueIn_singleton, Given.value?, Option.or_none]
    exact h.value t
  · simp

end Gathered

variable {g g' : Gathered} {word : String}

lemma ofCommandName?_of_dash (h : word.toList.head? = some '-') :
    word ≠ "help" ∧ Level.ofCommandName? word = none := by
  constructor
  · rintro rfl
    revert h
    decide
  · unfold Level.ofCommandName?
    split
    case h_5 => rfl
    all_goals
      revert h
      decide

/-- Words after which a level reads on from another state. -/
def Reads (level : Level) (g : Gathered) (ws : List String) (g' : Gathered) : Prop :=
  ∀ rest, readLevel level g (ws ++ rest) = readLevel level g' rest

lemma Reads.append {g'' : Gathered} {ws ws' : List String} (h : Reads level g ws g')
    (h' : Reads level g' ws' g'') : Reads level g (ws ++ ws') g'' := by
  intro rest
  rw [List.append_assoc, h, h']

lemma reads_long {name : List Char} (hword : word.toList = '-' :: '-' :: name)
    (hname : name ≠ []) (h : readLong level g name = .ok g') : Reads level g [word] g' := by
  have hdash : word.toList.head? = some '-' := by rw [hword, List.head?_cons]
  obtain ⟨hhelp, hcommand⟩ := ofCommandName?_of_dash hdash
  intro rest
  have hread : (do readLevel level (← readLong level g name) rest) =
      readLevel level g' rest := by
    rw [h]
    rfl
  rw [List.singleton_append, readLevel.eq_def]
  simpa [hhelp, hcommand, hword] using hread

lemma reads_shorts {letters : List Char} (hword : word.toList = '-' :: c :: letters)
    (hc : c ≠ '-') (h : readShorts level g (c :: letters) = .ok g') :
    Reads level g [word] g' := by
  have hdash : word.toList.head? = some '-' := by rw [hword, List.head?_cons]
  obtain ⟨hhelp, hcommand⟩ := ofCommandName?_of_dash hdash
  intro rest
  have hread : (do readLevel level (← readShorts level g (c :: letters)) rest) =
      readLevel level g' rest := by
    rw [h]
    rfl
  rw [List.singleton_append, readLevel.eq_def]
  simpa [hhelp, hcommand, hword, hc] using hread

lemma reads_waiting (hwait : g.isWaiting = true) (hword : looksLikeOption word = false) :
    Reads level g [word] (g.receive word) := by
  intro rest
  rw [List.singleton_append, readLevel.eq_def]
  simp only [hwait, not_true_eq_false, false_and, and_false, if_false]
  split
  · next h => simp [looksLikeOption, h] at hword
  · next h => simp [looksLikeOption, h] at hword
  · next h => simp [looksLikeOption, h] at hword
  · rfl

lemma notEquals_of_notMem {name : List Char} (hname : '=' ∉ name) :
    ∀ c ∈ name, decide (c ≠ '=') = true :=
  fun _ hc => decide_eq_true fun heq => hname (heq ▸ hc)

lemma readLong_of_no_value {name : List Char} (hname : '=' ∉ name) :
    readLong level g name =
      match level.long? name with
      | none => .error .unknownArgument
      | some (.setting s) => g.await s
      | some (.switch s) => g.flip level s := by
  have hne := notEquals_of_notMem hname
  unfold readLong
  rw [List.takeWhile_eq_self_iff.mpr hne, List.dropWhile_eq_nil_iff.mpr hne]
  dsimp only
  rcases level.long? name with _ | _ | _ <;> rfl

lemma readLong_of_value {name value : List Char} (hname : '=' ∉ name)
    (h : level.long? name = some (.setting s)) :
    readLong level g (name ++ '=' :: value) = g.attach s (String.ofList value) := by
  have hne := notEquals_of_notMem hname
  unfold readLong
  rw [List.takeWhile_append_of_pos hne, List.dropWhile_append_of_pos hne]
  simp [h]

section

variable {m m' : Gathered} {v : String}

lemma readShorts_equals (h : level.short? c = some (.setting s)) :
    readShorts level g (c :: '=' :: v.toList) = g.attach s v := by
  simp [readShorts, h]

lemma readShorts_joined (h : level.short? c = some (.setting s)) (hempty : v ≠ "")
    (hequals : v.toList.head? ≠ some '=') :
    readShorts level g (c :: v.toList) = g.attach s v := by
  rw [readShorts, h]
  dsimp only
  split
  · next hnil => exact absurd (String.toList_eq_nil_iff.mp hnil) hempty
  · next hcons => simp [hcons] at hequals
  · rw [String.ofList_toList]

lemma readShorts_letter (h : level.short? c = some (.setting s)) :
    readShorts level g [c] = g.await s := by
  simp [readShorts, h]

lemma attach_eq_ok (hg : g.settle = .ok m) (hassign : m.assign s v = .ok m') :
    g.attach s v = .ok m' := by
  rw [Gathered.attach, hg]
  exact hassign

lemma await_eq_ok (hg : g.settle = .ok m) (s : Setting) :
    g.await s = .ok { m with pending := some (s, none) } := by
  rw [Gathered.await, hg]
  rfl

lemma exists_reads_value {form : Form} (htakes : level.takes (.setting s) = true)
    (hcarries : form.carries s v = true) (hg : g.settle = .ok m) (hassign : m.assign s v = .ok m') :
    ∃ g', g'.settle = .ok m' ∧ Reads level g (form.words s v) g' := by
  have hm : m.pending = none := Gathered.pending_of_settle hg
  have hm' : m'.settle = .ok m' := by
    rw [Gathered.assign_eq_ok hassign]
    exact Gathered.settle_of_pending hm
  have hattach : g.attach s v = .ok m' := attach_eq_ok hg hassign
  have hawait : g.await s = .ok { m with pending := some (s, none) } := await_eq_ok hg s
  have hreceive : (Gathered.receive { m with pending := some (s, none) } v).settle = .ok m' :=
    (Gathered.settle_receive hm s v).trans hassign
  cases form with
  | equals =>
    have hword : ("--" ++ s.name ++ "=" ++ v).toList =
        '-' :: '-' :: (s.name.toList ++ '=' :: v.toList) := by simp [String.toList_append]
    have hread : readLong level g (s.name.toList ++ '=' :: v.toList) = .ok m' :=
      (readLong_of_value equals_notMem_name (long?_name htakes)).trans (by simpa using hattach)
    exact ⟨m', hm', reads_long hword (by simp) hread⟩
  | apart =>
    have hvalue : looksLikeOption v = false := by simpa [Form.carries] using hcarries
    have hword : ("--" ++ s.name).toList = '-' :: '-' :: s.name.toList := by
      simp [String.toList_append]
    have hread : readLong level g s.name.toList = .ok { m with pending := some (s, none) } := by
      simp [readLong_of_no_value equals_notMem_name, long?_name htakes, hawait]
    exact ⟨_, hreceive, (reads_long hword name_ne_nil hread).append (reads_waiting rfl hvalue)⟩
  | letterEquals c =>
    have hletter : s.letter? = some c := by simpa [Form.carries] using hcarries
    have hword := String.toList_ofList (l := '-' :: c :: '=' :: v.toList)
    have hread : readShorts level g (c :: '=' :: v.toList) = .ok m' :=
      (readShorts_equals (short?_letter htakes hletter)).trans hattach
    exact ⟨m', hm', reads_shorts hword (letter_ne_dash hletter) hread⟩
  | letterJoined c =>
    obtain ⟨⟨hletter, hempty⟩, hequals⟩ :
        (s.letter? = some c ∧ v ≠ "") ∧ v.toList.head? ≠ some '=' := by
      simpa [Form.carries] using hcarries
    have hword := String.toList_ofList (l := '-' :: c :: v.toList)
    have hread : readShorts level g (c :: v.toList) = .ok m' :=
      (readShorts_joined (short?_letter htakes hletter) hempty hequals).trans hattach
    exact ⟨m', hm', reads_shorts hword (letter_ne_dash hletter) hread⟩
  | letterApart c =>
    obtain ⟨hletter, hvalue⟩ : s.letter? = some c ∧ looksLikeOption v = false := by
      simpa [Form.carries] using hcarries
    have hword := String.toList_ofList (l := ['-', c])
    have hread := (readShorts_letter (g := g) (short?_letter htakes hletter)).trans hawait
    exact ⟨_, hreceive,
      (reads_shorts hword (letter_ne_dash hletter) hread).append (reads_waiting rfl hvalue)⟩

end

section

variable {m : Gathered}

lemma flip_verbose (level : Level) (hg : g.settle = .ok m) :
    ∃ n, g.flip level .verbose = .ok { m with verbosity := some n } := by
  unfold Gathered.flip
  rw [hg]
  exact ⟨_, rfl⟩

lemma flip_dryRun (hg : g.settle = .ok m) (hnew : m.dryRun = false) :
    g.flip level .dryRun = .ok { m with dryRun := true } := by
  unfold Gathered.flip
  rw [hg]
  show (if m.dryRun = true then _ else _) = _
  rw [hnew]
  rfl

lemma exists_readShorts_verbose (level : Level) (hg : g.settle = .ok m) :
    ∃ n, ∀ rest, readShorts level g ('v' :: rest) =
      readShorts level { m with verbosity := some n } rest := by
  obtain ⟨n, hflip⟩ := flip_verbose level hg
  refine ⟨n, fun rest => ?_⟩
  rw [readShorts, short?_verbose]
  dsimp only
  rw [hflip]
  rfl

lemma exists_readShorts_verboseLetters (level : Level) (hg : g.settle = .ok m) (more : ℕ) :
    ∃ n, readShorts level g ('v' :: List.replicate more 'v') =
      .ok { m with verbosity := some n } := by
  induction more generalizing g m with
  | zero =>
    obtain ⟨n, hread⟩ := exists_readShorts_verbose level hg
    exact ⟨n, hread []⟩
  | succ more ih =>
    obtain ⟨n, hread⟩ := exists_readShorts_verbose level hg
    have hm : m.pending = none := Gathered.pending_of_settle hg
    obtain ⟨n', hrest⟩ := ih (m := { m with verbosity := some n }) (Gathered.settle_of_pending hm)
    refine ⟨n', ?_⟩
    rw [List.replicate_succ, hread, hrest]

end

variable {kind : Choice → Bool} {past givens : List Given}

lemma exists_reads_given {given : Given} (hg : g.Holds past)
    (hlevel : level.takes given.choice = true) (hform : given.isWellFormed = true)
    (hnew : ∀ h ∈ past, h.clashes given = false) :
    ∃ g', g'.Holds (past ++ [given]) ∧ Reads level g given.words g' := by
  obtain ⟨m, hsettle, htells⟩ := hg
  have hm : m.pending = none := Gathered.pending_of_settle hsettle
  cases given with
  | value s form v =>
    have hvalue : m.value? s = none := by
      rw [htells.value, valueIn_eq_none_iff]
      intro form' w hpast
      simpa [Given.clashes, Given.choice] using hnew _ hpast
    obtain ⟨hpath, hcarries⟩ :
        (s.isPath = false ∨ v ≠ "") ∧ form.carries s v = true := by
      simpa [Given.isWellFormed] using hform
    have hassign := Gathered.assign_of_new hvalue hpath
    obtain ⟨g', hg', hreads⟩ := exists_reads_value hlevel hcarries hsettle hassign
    exact ⟨g', ⟨_, hg', htells.assign hvalue⟩, hreads⟩
  | verbose =>
    obtain ⟨n, hflip⟩ := flip_verbose level hsettle
    have hword : "--verbose".toList = '-' :: '-' :: "verbose".toList := by decide
    have hread : readLong level g "verbose".toList = .ok { m with verbosity := some n } := by
      rw [readLong_of_no_value (by decide), long?_verbose]
      exact hflip
    exact ⟨_, (htells.verbose rfl (some n)).holds hm, reads_long hword (by decide) hread⟩
  | verboseLetters more =>
    obtain ⟨n, hread⟩ := exists_readShorts_verboseLetters level hsettle more
    have hword := String.toList_ofList (l := '-' :: 'v' :: List.replicate more 'v')
    exact ⟨_, (htells.verbose rfl (some n)).holds hm, reads_shorts hword (by decide) hread⟩
  | dryRun =>
    obtain rfl : level = .update := by
      revert hlevel
      cases level <;> decide
    have hunset : m.dryRun = false := by
      rw [Bool.eq_false_iff, ne_eq, htells.dryRun]
      intro hpast
      simpa [Given.clashes, Given.choice] using hnew _ hpast
    have hword : "--dry-run".toList = '-' :: '-' :: "dry-run".toList := by decide
    have hread : readLong .update g "dry-run".toList = .ok { m with dryRun := true } := by
      rw [readLong_of_no_value (by decide), long?_dryRun]
      exact flip_dryRun hsettle hunset
    exact ⟨_, htells.switchDryRun.holds hm, reads_long hword (by decide) hread⟩

/-- Options of a level are all read, whatever follows them. -/
lemma exists_reads_words (hg : g.Holds past) (h : Proper level.takes (past ++ givens)) :
    ∃ g', g'.Holds (past ++ givens) ∧ Reads level g (words givens) g' := by
  -- The options still to come get fewer, and `past` grows at its end by the one that is read.
  induction givens generalizing g past with
  | nil => exact ⟨g, by rwa [List.append_nil], fun _ => rfl⟩
  | cons given givens ih =>
    have hmem : given ∈ past ++ given :: givens := by simp
    have hnew : ∀ h ∈ past, h.clashes given = false := fun h' hpast =>
      (List.pairwise_append.mp h.once).2.2 h' hpast given List.mem_cons_self
    obtain ⟨g₁, hg₁, hfirst⟩ :=
      exists_reads_given hg (h.ofKind given hmem) (h.wellFormed given hmem) hnew
    have happend : past ++ given :: givens = (past ++ [given]) ++ givens := by simp
    rw [happend] at h
    obtain ⟨g₂, hg₂, hrest⟩ := ih hg₁ h
    exact ⟨g₂, by rwa [happend], hfirst.append hrest⟩

lemma holds_empty : ({} : Gathered).Holds [] :=
  ⟨{}, rfl, fun _ => rfl, by simp⟩

lemma readLevel_command (hg : g.Holds past) (hlevel : level ≠ .top) (rest : List String) :
    readLevel .top g (level.commandName :: rest) = .ok (g, some (level, rest)) := by
  obtain ⟨m, hsettle, -⟩ := hg
  rw [readLevel.eq_def]
  simp only [Gathered.not_isWaiting_of_settle hsettle]
  cases level with
  | top => contradiction
  | clusterSize => rfl
  | update => rfl
  | target => rfl
  | env => rfl

def commandIn (givens : List Given) : Level → Option Command
  | .top => none
  | .env => some .env
  | .clusterSize => some (.clusterSize ((valueIn givens .format).getD "text"))
  | .target => some (.target ((valueIn givens .format).getD "text"))
  | .update => (valueIn givens .resources).map (.update · (decide (.dryRun ∈ givens)))

lemma commandOf_eq_ok {m : Gathered} (h : m.Tells givens) {command : Command}
    (hcommand : commandIn givens level = some command) : commandOf m level = .ok command := by
  cases level with
  | top => cases hcommand
  | env =>
    obtain rfl := Option.some.inj hcommand
    rfl
  | clusterSize =>
    obtain rfl := Option.some.inj hcommand
    rw [commandOf, h.value]
    rfl
  | target =>
    obtain rfl := Option.some.inj hcommand
    rw [commandOf, h.value]
    rfl
  | update =>
    obtain ⟨path, hpath, rfl⟩ := Option.map_eq_some_iff.mp hcommand
    have hdry : m.dryRun = decide (.dryRun ∈ givens) := Bool.eq_iff_iff.mpr (by simp [h.dryRun])
    rw [commandOf, h.value, hpath, hdry]

lemma exists_commandIn (hlevel : level ≠ .top)
    (hcomplete : level = .update → valueIn givens .resources ≠ none) :
    ∃ command, commandIn givens level = some command := by
  cases level with
  | top => contradiction
  | update =>
    obtain ⟨path, hpath⟩ := Option.ne_none_iff_exists'.mp (hcomplete rfl)
    exact ⟨_, by rw [commandIn, hpath, Option.map_some]⟩
  | clusterSize => exact ⟨_, rfl⟩
  | target => exact ⟨_, rfl⟩
  | env => exact ⟨_, rfl⟩

lemma commandIn_ne_env (hlevel : level ≠ .env) {command : Command}
    (hcommand : commandIn givens level = some command) : command ≠ .env := by
  rintro rfl
  cases level <;> simp [commandIn] at hcommand hlevel

lemma exists_parse_words {before after : List Given} {command : Command}
    (hbefore : Proper Choice.isShared before) (hafter : Proper level.takes after)
    (hcommand : commandIn after level = some command) :
    ∃ verbosity, parse (words before ++ level.commandName :: words after) =
      .ok ⟨command, valueAround before after .nspace, valueAround before after .target,
        valueAround before after .kubeconfig, verbosity⟩ := by
  have hlevel : level ≠ .top := by
    rintro rfl
    cases hcommand
  have htop : Proper Level.top.takes before :=
    ⟨fun g hg => by simp [Level.takes, hbefore.ofKind g hg], hbefore.wellFormed, hbefore.once⟩
  obtain ⟨b, hb, hreadBefore⟩ := exists_reads_words holds_empty htop
  obtain ⟨a, ⟨ma, hma, htellsAfter⟩, hreadAfter⟩ :=
    exists_reads_words holds_empty hafter
  have hfirst : readLevel .top {} (words before ++ level.commandName :: words after) =
      .ok (b, some (level, words after)) :=
    (hreadBefore _).trans (readLevel_command hb hlevel _)
  have hsecond : readLevel level {} (words after) = .ok (a, none) := by
    simpa [readLevel] using hreadAfter []
  obtain ⟨mb, hmb, htellsBefore⟩ := hb
  -- The last option in front of the command takes effect only when all else has been looked at.
  have hinvocation : parse (words before ++ level.commandName :: words after) =
      .ok (invocation mb ma command) := by
    unfold parse
    rw [hfirst]
    show (readLevel level {} (words after) >>= _) = _
    rw [hsecond]
    show (a.settle >>= _) = _
    rw [hma]
    show (commandOf ma level >>= _) = _
    rw [commandOf_eq_ok htellsAfter hcommand]
    show (b.settle >>= _) = _
    rw [hmb]
    rfl
  refine ⟨(ma.verbosity <|> mb.verbosity).getD 0, hinvocation.trans ?_⟩
  simp only [invocation, htellsBefore.value, htellsAfter.value, List.nil_append, valueAround]

variable {own before after : List Given}

lemma words_append (own after : List Given) : words (own ++ after) = words own ++ words after :=
  List.flatMap_append

lemma Proper.valueIn_eq_none (h : Proper kind givens) (hs : kind (.setting s) = false) :
    valueIn givens s = none := by
  rw [valueIn_eq_none_iff]
  intro form v hmem
  have hkind : kind (.setting s) = true := h.ofKind _ hmem
  simp [hs] at hkind

lemma hasOwn_of_isShared {c : Choice} (h : c.isShared = true) : level.hasOwn c = false := by
  revert h
  rcases c with s | s <;> cases s <;> cases level <;> decide

lemma Proper.append_shared (hown : Proper level.hasOwn own)
    (hafter : Proper Choice.isShared after) : Proper level.takes (own ++ after) := by
  constructor
  · intro g hg
    rcases List.mem_append.mp hg with hg | hg
    · simp [Level.takes, hown.ofKind g hg]
    · simp [Level.takes, hafter.ofKind g hg]
  · intro g hg
    rcases List.mem_append.mp hg with hg | hg
    · exact hown.wellFormed g hg
    · exact hafter.wellFormed g hg
  · refine List.pairwise_append.mpr ⟨hown.once, hafter.once, fun g hg h hh => ?_⟩
    have hne : g.choice ≠ h.choice := by
      intro heq
      have hunowned : level.hasOwn h.choice = false := hasOwn_of_isShared (hafter.ofKind h hh)
      rw [← heq, hown.ofKind g hg] at hunowned
      cases hunowned
    simp [Given.clashes, hne]

lemma valueAround_append_shared (hown : Proper level.hasOwn own)
    (hs : (Choice.setting s).isShared = true) :
    valueAround before (own ++ after) s = valueAround before after s := by
  have hnone : valueIn own s = none := hown.valueIn_eq_none (hasOwn_of_isShared hs)
  rw [valueAround, valueIn_append, hnone, Option.none_or, valueAround]

lemma commandIn_append_shared (hafter : Proper Choice.isShared after) :
    commandIn (own ++ after) level = commandIn own level := by
  have hformat : valueIn (own ++ after) .format = valueIn own .format := by
    rw [valueIn_append, hafter.valueIn_eq_none rfl, Option.or_none]
  have hresources : valueIn (own ++ after) .resources = valueIn own .resources := by
    rw [valueIn_append, hafter.valueIn_eq_none rfl, Option.or_none]
  have hdry : .dryRun ∉ after := fun hmem => Bool.false_ne_true (hafter.ofKind _ hmem)
  cases level <;> simp [commandIn, hformat, hresources, hdry]

/-- Shared options may stand in front of a command, and behind its own. -/
theorem exists_parse_own {command : Command} (hbefore : Proper Choice.isShared before)
    (hown : Proper level.hasOwn own) (hafter : Proper Choice.isShared after)
    (hcommand : commandIn own level = some command) :
    ∃ verbosity, parse (words before ++ level.commandName :: (words own ++ words after)) =
      .ok ⟨command, valueAround before after .nspace, valueAround before after .target,
        valueAround before after .kubeconfig, verbosity⟩ := by
  have hboth : commandIn (own ++ after) level = some command :=
    (commandIn_append_shared hafter).trans hcommand
  obtain ⟨verbosity, hparse⟩ := exists_parse_words hbefore (hown.append_shared hafter) hboth
  rw [words_append] at hparse
  refine ⟨verbosity, hparse.trans ?_⟩
  rw [valueAround_append_shared hown rfl, valueAround_append_shared hown rfl,
    valueAround_append_shared hown rfl]

end WorkloadScaling.CommandLine
