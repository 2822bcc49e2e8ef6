import Mathlib
import WorkloadScaling.Program
import WorkloadScaling.Proofs.ClientRun
import WorkloadScaling.Proofs.OptionWords
import WorkloadScaling.Text.Utf8

/-!
# Where settings come from

A namespace, a target and a kubeconfig file may each be given behind the command, in front of it
and by the environment. The first of these that gives a value is the one that counts, and nothing
that a run does depends on the others.
-/
namespace WorkloadScaling

open CommandLine (Choice Given Level Proper commandIn parse valueAround valueIn words)

/-- The value that counts among those behind the command, in front of it and in a variable. Bytes
that are no text count as little as none at all, and so does the empty text there. -/
inductive Prevails (after before : Option String) (bytes : Option ByteArray)
    (fallback : Option String) : Option String → Prop
  | after {v : String} : after = some v → Prevails after before bytes fallback (some v)
  | before {v : String} : after = none → before = some v →
      Prevails after before bytes fallback (some v)
  | variable {v : String} : after = none → before = none → bytes = some v.toUTF8 → v ≠ "" →
      Prevails after before bytes fallback (some v)
  | fallback : after = none → before = none → (∀ v : String, bytes = some v.toUTF8 → v = "") →
      Prevails after before bytes fallback fallback

structure InForce (env : Environment) (before after : List Given) (settings : Settings) : Prop where
  nspace : Prevails (valueIn after .nspace) (valueIn before .nspace)
    (env "SCALE_CLIENT_NAMESPACE") (some "default") (some settings.nspace)
  target : Prevails (valueIn after .target) (valueIn before .target)
    (env "SCALE_CLIENT_TARGET") (some "") (some settings.target)
  kubeconfig : Prevails (valueIn after .kubeconfig) (valueIn before .kubeconfig)
    (env "SCALE_CLIENT_KUBECONFIG") none settings.kubeconfig

namespace Environment

variable {env env' : Environment} {name v : String}

lemma text?_eq_some_iff : env.text? name = some v ↔ env name = some v.toUTF8 ∧ v ≠ "" := by
  simp [text?, given?, Option.filter_eq_some_iff, Option.bind_eq_some_iff,
    Text.fromUTF8?_eq_some_iff]

lemma text?_eq_none_iff : env.text? name = none ↔ ∀ v, env name = some v.toUTF8 → v = "" := by
  rw [Option.eq_none_iff_forall_ne_some]
  simp [text?_eq_some_iff]

end Environment

variable {env env' : Environment} {name : String} {a b fallback v : Option String}

lemma prevails_iff : Prevails a b (env name) fallback v ↔
    v = (((a <|> b) <|> env.text? name) <|> fallback) := by
  constructor
  · rintro (h | ⟨ha, h⟩ | ⟨ha, hb, hbytes, hne⟩ | ⟨ha, hb, hnone⟩)
    · simp [h]
    · simp [ha, h]
    · simp [ha, hb, Environment.text?_eq_some_iff.mpr ⟨hbytes, hne⟩]
    · simp [ha, hb, Environment.text?_eq_none_iff.mpr hnone]
  · rintro rfl
    cases a with
    | some v => exact .after rfl
    | none =>
      cases b with
      | some v => exact .before rfl rfl
      | none =>
        cases htext : env.text? name with
        | some v =>
          obtain ⟨hbytes, hne⟩ := Environment.text?_eq_some_iff.mp htext
          exact .variable rfl rfl hbytes hne
        | none => exact .fallback rfl rfl (Environment.text?_eq_none_iff.mp htext)

variable {before after before' after' : List Given} {settings : Settings}

lemma inForce_iff : InForce env before after settings ↔
    settings = Settings.choose (EnvironmentSettings.load env) (valueAround before after .nspace)
      (valueAround before after .target) (valueAround before after .kubeconfig) := by
  obtain ⟨nspace, target, kubeconfig⟩ := settings
  have hdefault : ∀ (x : Option String) (d : String), (x <|> some d) = some (x.getD d) := by simp
  have hnone : ∀ x : Option String, (x <|> none) = x := by simp
  rw [Settings.choose, Settings.mk.injEq]
  constructor
  · rintro ⟨hnspace, htarget, hkubeconfig⟩
    rw [prevails_iff] at hnspace htarget hkubeconfig
    rw [hdefault] at hnspace htarget
    rw [hnone] at hkubeconfig
    exact ⟨Option.some.inj hnspace, Option.some.inj htarget, hkubeconfig⟩
  · rintro ⟨rfl, rfl, rfl⟩
    constructor
    · rw [prevails_iff, hdefault]
      rfl
    · rw [prevails_iff, hdefault]
      rfl
    · rw [prevails_iff, hnone]
      rfl

lemma InForce.moved (h : InForce env before after settings)
    (hgiven : ∀ s, valueAround before' after' s = valueAround before after s) :
    InForce env before' after' settings := by
  rw [inForce_iff] at h ⊢
  rw [h, hgiven, hgiven, hgiven]

lemma Settings.resolve_eq (e : EnvironmentSettings) (nspace target kubeconfig : Option String) :
    resolve e nspace target kubeconfig =
      (if (choose e nspace target kubeconfig).nspace = "" then .error .emptyNamespace
      else if (choose e nspace target kubeconfig).target = "" then .error .noTarget
      else .ok (choose e nspace target kubeconfig)) := by
  unfold resolve validate invalid?
  split_ifs <;> rfl

lemma InCluster.access_congr (hhost : env' hostVariable = env hostVariable)
    (hport : env' portVariable = env portVariable) (files : Files) :
    access env' files = access env files := by
  simp only [access, Environment.given?, hhost, hport]

lemma Access.find_congr (hhost : env' InCluster.hostVariable = env InCluster.hostVariable)
    (hport : env' InCluster.portVariable = env InCluster.portVariable)
    (now : Timestamp.Instant) (files : Files) (kubeconfig : Option String) :
    find now env' files kubeconfig = find now env files kubeconfig := by
  simp only [find, told, InCluster.access_congr hhost hport]

namespace Program

variable {σ : Type} {invocation invocation' : CommandLine.Invocation}

lemma connect_congr (hhost : env' InCluster.hostVariable = env InCluster.hostVariable)
    (hport : env' InCluster.portVariable = env InCluster.portVariable)
    (now : Timestamp.Instant) (files : Files) (api : Access → ControlPlane σ) :
    connect now env' files api = connect now env files api := by
  funext settings
  rw [connect, Access.find_congr hhost hport, connect]

/-- How a run comes out that goes by settings. Nothing is connected to without a namespace and a
target, and what the command alone needs comes last. -/
inductive GoesBy (settings : Settings) (connecting : Attempt σ (ControlPlane σ × Client))
    (carryingOut : ControlPlane σ → Client → Attempt σ String) (w : World σ) :
    Except Ending String × World σ → Prop
  | unnamed : settings.nspace = "" →
      GoesBy settings connecting carryingOut w (.error (.failed (.settings .emptyNamespace)), w)
  | untargeted : settings.nspace ≠ "" → settings.target = "" →
      GoesBy settings connecting carryingOut w (.error (.failed (.settings .noTarget)), w)
  | unconnected {ending : Ending} {w' : World σ} : settings.nspace ≠ "" → settings.target ≠ "" →
      connecting.run w = (.error ending, w') →
      GoesBy settings connecting carryingOut w (.error ending, w')
  | connected {control : ControlPlane σ} {client : Client} {w' : World σ} :
      settings.nspace ≠ "" → settings.target ≠ "" →
      connecting.run w = (.ok (control, client), w') →
      GoesBy settings connecting carryingOut w ((carryingOut control client).run w')

lemma perform_eq (hcommand : invocation.command ≠ .env) (now : Timestamp.Instant)
    (env : Environment) (files : Files) (api : Access → ControlPlane σ) :
    perform now env files api invocation =
      match Settings.resolve (EnvironmentSettings.load env) invocation.nspace invocation.target
          invocation.kubeconfig with
      | .error e => throw (.failed (.settings e))
      | .ok settings => connect now env files api settings >>= fun r =>
          carryOut files invocation.command r.1 r.2 := by
  unfold perform
  split
  · contradiction
  · rfl

lemma perform_goesBy (hcommand : invocation.command ≠ .env)
    (hresolve : Settings.resolve (EnvironmentSettings.load env) invocation.nspace
        invocation.target invocation.kubeconfig =
      (if settings.nspace = "" then .error .emptyNamespace
      else if settings.target = "" then .error .noTarget
      else .ok settings))
    (now : Timestamp.Instant) (files : Files) (api : Access → ControlPlane σ) (w : World σ) :
    GoesBy settings (connect now env files api settings) (carryOut files invocation.command) w
      ((perform now env files api invocation).run w) := by
  rw [perform_eq hcommand, hresolve]
  by_cases hnspace : settings.nspace = ""
  · rw [if_pos hnspace]
    exact .unnamed hnspace
  by_cases htarget : settings.target = ""
  · rw [if_neg hnspace, if_pos htarget]
    exact .untargeted hnspace htarget
  rw [if_neg hnspace, if_neg htarget]
  dsimp only
  rw [Attempt.run_bind]
  rcases hconnect : (connect now env files api settings).run w with ⟨ending | ⟨control, client⟩, w'⟩
  · exact .unconnected hnspace htarget hconnect
  · exact .connected hnspace htarget hconnect

lemma perform_congr (hhost : env' InCluster.hostVariable = env InCluster.hostVariable)
    (hport : env' InCluster.portVariable = env InCluster.portVariable)
    (hcommand : invocation'.command = invocation.command)
    (hresolve : Settings.resolve (EnvironmentSettings.load env') invocation'.nspace
        invocation'.target invocation'.kubeconfig =
      Settings.resolve (EnvironmentSettings.load env) invocation.nspace invocation.target
        invocation.kubeconfig)
    (now : Timestamp.Instant) (files : Files) (api : Access → ControlPlane σ) :
    perform now env' files api invocation' = perform now env files api invocation := by
  rw [perform, hcommand, hresolve, connect_congr hhost hport, perform]

def settingVariables : List String :=
  ["SCALE_CLIENT_NAMESPACE", "SCALE_CLIENT_TARGET", "SCALE_CLIENT_KUBECONFIG"]

/-- A command with all that it needs is read with options that are shared on either side of it. Its
settings are the values that count, unless there is no namespace, or else no target, and they are
the same on whichever side the options stand. The run goes by them: it fails if they are no good, it
connects with them and with no others, and then does what is asked for. A run with other shared
options, in another environment, does the same if the same values count and the rest of the
environment is as it was, so it does not matter what a source holds that does not count. -/
theorem settings_precedence (env : Environment) (level : Level) {own : List Given}
    (hlevel : level ∈ [.clusterSize, .update, .target])
    (hbefore : Proper Choice.isShared before) (hown : Proper level.hasOwn own)
    (hcomplete : level = .update → valueIn own .resources ≠ none)
    (hafter : Proper Choice.isShared after) :
    ∃ invocation settings,
      parse (words before ++ level.commandName :: (words own ++ words after)) = .ok invocation ∧
      commandIn own level = some invocation.command ∧
      InForce env before after settings ∧
      Settings.resolve (EnvironmentSettings.load env) invocation.nspace invocation.target
          invocation.kubeconfig =
        (if settings.nspace = "" then .error .emptyNamespace
        else if settings.target = "" then .error .noTarget
        else .ok settings) ∧
      (∀ (σ : Type) now files (api : Access → ControlPlane σ) w,
        GoesBy settings (connect now env files api settings) (carryOut files invocation.command) w
          ((perform now env files api invocation).run w)) ∧
      (∀ before' after', (∀ s, valueAround before' after' s = valueAround before after s) →
        InForce env before' after' settings) ∧
      ∀ env' before' after', Proper Choice.isShared before' → Proper Choice.isShared after' →
        InForce env' before' after' settings → (∀ name ∉ settingVariables, env' name = env name) →
        ∃ invocation',
          parse (words before' ++ level.commandName :: (words own ++ words after')) =
            .ok invocation' ∧
          ∀ (σ : Type) now files (api : Access → ControlPlane σ),
            perform now env' files api invocation' = perform now env files api invocation := by
  have htop : level ≠ .top := by
    rintro rfl
    simp at hlevel
  have henv : level ≠ .env := by
    rintro rfl
    simp at hlevel
  obtain ⟨command, hcommand⟩ := CommandLine.exists_commandIn htop hcomplete
  obtain ⟨verbosity, hparse⟩ := CommandLine.exists_parse_own hbefore hown hafter hcommand
  have hsettings : InForce env before after (Settings.choose (EnvironmentSettings.load env)
      (valueAround before after .nspace) (valueAround before after .target)
      (valueAround before after .kubeconfig)) := inForce_iff.mpr rfl
  have hresolve := Settings.resolve_eq (EnvironmentSettings.load env)
    (valueAround before after .nspace) (valueAround before after .target)
    (valueAround before after .kubeconfig)
  refine ⟨_, _, hparse, hcommand, hsettings, hresolve, fun σ now files api w =>
    perform_goesBy (CommandLine.commandIn_ne_env henv hcommand) hresolve now files api w,
    fun _ _ => hsettings.moved, ?_⟩
  intro env' before' after' hbefore' hafter' hforce hrest
  obtain ⟨verbosity', hparse'⟩ := CommandLine.exists_parse_own hbefore' hown hafter' hcommand
  have hhost := hrest InCluster.hostVariable (by decide)
  have hport := hrest InCluster.portVariable (by decide)
  refine ⟨_, hparse', fun σ now files api => perform_congr hhost hport ?_ ?_ now files api⟩
  · rfl
  · rw [Settings.resolve, ← inForce_iff.mp hforce, Settings.resolve]

/-- The namespace behind the command counts against an empty one in front of it and against a
variable that is no text, and the target comes from a variable. Given in front of the command, the
same values make the same run. -/
theorem settings_precedence_update :
    let env : Environment := fun name =>
      if name = "SCALE_CLIENT_NAMESPACE" then some ⟨#[0xff]⟩
      else if name = "SCALE_CLIENT_TARGET" then some "deployment/web".toUTF8
      else none
    ∃ invocation,
      parse ["--namespace=", "-vv", "update", "--resources", "r.json", "--dry-run",
        "--namespace=ns1"] = .ok invocation ∧
      Settings.resolve (EnvironmentSettings.load env) invocation.nspace invocation.target
          invocation.kubeconfig = .ok ⟨"ns1", "deployment/web", none⟩ ∧
      ∃ invocation',
        parse ["--namespace=ns1", "--target=deployment/web", "update", "--resources", "r.json",
          "--dry-run"] = .ok invocation' ∧
        ∀ (σ : Type) now files (api : Access → ControlPlane σ),
          perform now (fun _ => none) files api invocation' =
            perform now env files api invocation := by
  intro env
  let own : List Given := [.value .resources .apart "r.json", .dryRun]
  let before : List Given := [.value .nspace .equals "", .verboseLetters 1]
  let after : List Given := [.value .nspace .equals "ns1"]
  let before' : List Given :=
    [.value .nspace .equals "ns1", .value .target .equals "deployment/web"]
  have hown : Proper Level.update.hasOwn own := ⟨by decide, by decide, by decide⟩
  have hbefore : Proper Choice.isShared before := ⟨by decide, by decide, by decide⟩
  have hafter : Proper Choice.isShared after := ⟨by decide, by decide, by decide⟩
  have hbefore' : Proper Choice.isShared before' := ⟨by decide, by decide, by decide⟩
  have hnone : Proper Choice.isShared [] := ⟨by decide, by decide, by decide⟩
  have hforce : InForce env before after ⟨"ns1", "deployment/web", none⟩ :=
    ⟨.after rfl, .variable rfl rfl rfl (by decide), .fallback rfl rfl (by simp [env])⟩
  have hforce' : InForce (fun _ => none) before' [] ⟨"ns1", "deployment/web", none⟩ :=
    ⟨.before rfl rfl, .before rfl rfl, .fallback rfl rfl (by simp)⟩
  have hrest : ∀ name ∉ settingVariables, none = env name := by
    intro name hname
    simp only [settingVariables, List.mem_cons, not_or] at hname
    simp [env, hname.1, hname.2.1]
  obtain ⟨invocation, settings, hparse, -, hsettings, hresolve, -, -, hsame⟩ :=
    settings_precedence env .update (by decide) hbefore hown (fun _ => by decide) hafter
  obtain rfl : settings = ⟨"ns1", "deployment/web", none⟩ :=
    (inForce_iff.mp hsettings).trans (inForce_iff.mp hforce).symm
  obtain ⟨invocation', hparse', hperform⟩ :=
    hsame (fun _ => none) before' [] hbefore' hnone hforce' hrest
  exact ⟨invocation, hparse, hresolve, invocation', hparse', hperform⟩

end Program

end WorkloadScaling
