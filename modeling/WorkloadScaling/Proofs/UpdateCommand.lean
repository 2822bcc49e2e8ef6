import Mathlib
import WorkloadScaling.Proofs.ClientCalls
import WorkloadScaling.Proofs.FailurePhases
import WorkloadScaling.Proofs.PatchDocument
import WorkloadScaling.Proofs.ReportText
import WorkloadScaling.Text.Utf8

/-!
# The update command

A file with resources is loaded before anything is asked of the cluster. What a dry run shows of
it is the document that the command would send, and sending it is one call.
-/
namespace WorkloadScaling

namespace ResourcesFile

lemma check_eq_ok {resources checked : Resources} (h : check resources = .ok checked) :
    checked = resources ∧ resources.names ≠ [] ∧ "" ∉ resources.names := by
  unfold check at h
  split at h
  · cases h
  · next hempty =>
    split at h
    · cases h
    · next hfind =>
      have hnames : resources.names ≠ [] := by
        intro hnil
        have hentries := List.map_eq_nil_iff.mp hnil
        simp [NameMap.isEmpty, hentries] at hempty
      refine ⟨(Except.ok.inj h).symm, hnames, fun hmem => ?_⟩
      have hnone := List.find?_eq_none.mp hfind "" hmem
      simp at hnone

lemma load_of_text (path text : String) :
    load path (some text.toUTF8) =
      match resources? (notationOf path) text with
      | none => .error (.malformed (notationOf path))
      | some resources => check resources := by
  have htext : String.fromUTF8? text.toUTF8 = some text := Text.fromUTF8?_eq_some_iff.mpr rfl
  cases hread : resources? (notationOf path) text with
  | none => simp only [load, Option.bind_some, htext, hread]
  | some resources => simp only [load, Option.bind_some, htext, hread]

lemma names_of_load {path : String} {content : Option ByteArray} {resources : Resources}
    (h : load path content = .ok resources) : resources.names ≠ [] ∧ "" ∉ resources.names := by
  unfold load at h
  split at h
  · cases h
  · split at h
    · cases h
    · obtain ⟨rfl, hnames⟩ := check_eq_ok h
      exact hnames

end ResourcesFile

def Json.containerNames? (v : Json) : Option (List String) := do
  let podSpec ← (← (← v.member? "spec").member? "template").member? "spec"
  let containers ← Document.items? (← podSpec.member? "containers")
  containers.mapM (Json.textAt? "name")

lemma containerNames?_resourcePatch (t : Target) (resources : Resources) :
    (resourcePatch t resources).containerNames? = some resources.names := by
  have hread : ∀ entry : String × Requirements,
      (containerPatch entry.1 entry.2).textAt? "name" = some entry.1 :=
    fun entry => textAt?_containerPatch entry.1 entry.2
  have hnames : resources.containers.mapM (Json.textAt? "name") = some resources.names :=
    mapM_map_of_reads hread resources.entries
  simp only [Resources.containers] at hnames
  simp [Json.containerNames?, resourcePatch, Json.member?, Json.find?, Document.items?, hnames]

namespace Program

open ResourcesFile (notationOf resources? load_of_text)

variable {σ α : Type}

structure Attempt.Yields (x : Attempt (Recorded σ) α) (v : World (Recorded σ))
    (calls : List Call) (result : Except Ending α) : Prop where
  result : (x.run v).1 = result
  calls : (x.run v).2.calls = v.calls ++ calls

variable {files : Files} {path : String} {resources : Resources}

lemma update_of_unusable {e : ResourcesFile.Failure}
    (h : ResourcesFile.load path (files path) = .error e) (api : ControlPlane σ) (client : Client)
    (dryRun : Bool) (v : World σ) :
    (update files api client path dryRun).run v = (.error (.failed (.resources path e)), v) := by
  simp only [update, h]
  rfl

lemma update_of_dryRun (h : ResourcesFile.load path (files path) = .ok resources)
    (api : ControlPlane σ) (client : Client) (v : World σ) :
    (update files api client path true).run v =
      (.ok (Report.patch .indentedJson (client.preview resources) ++ "\n"), v) := by
  simp only [update, h]
  rfl

lemma update_run (h : ResourcesFile.load path (files path) = .ok resources)
    (api : ControlPlane σ) (client : Client) (v : World σ) :
    (update files api client path false).run v =
      match client.update api resources v with
      | (.ok _, u) => (.ok "", u.logged [⟨.info,
          "Updated " ++ toString resources.size ++ " container(s)", []⟩])
      | (.error e, u) => (.error (.failed (.update client.target e)), u) := by
  simp only [update, h, Bool.false_eq_true, if_false]
  rw [call_bind_run]
  rcases client.update api resources v with ⟨_ | _, _⟩ <;> rfl

def updateEnding (t : Target) : Except Failure Unit → Except Ending String
  | .ok _ => .ok ""
  | .error e => .error (.failed (.update t e))

variable {api : ControlPlane σ} {client : Client} {v : World (Recorded σ)}

lemma Attempt.Yields.of_quiet {x : Attempt (Recorded σ) α} {result : Except Ending α}
    (h : x.run v = (result, v)) : x.Yields v [] result := by
  constructor
  · rw [h]
  · rw [h, List.append_nil]

lemma update_yields {calls : List Call} {result : Except Failure Unit}
    (h : ResourcesFile.load path (files path) = .ok resources)
    (hupdate : (api.recorded.update client.target resources).Yields v calls result) :
    (update files api.recorded client path false).Yields v calls
      (updateEnding client.target result) := by
  have hrun := update_run h api.recorded client v
  obtain ⟨hresult, hcalls⟩ := hupdate
  have hclient : client.update api.recorded resources v =
      (api.recorded.update client.target resources).run v := rfl
  rw [hclient] at hrun
  rcases hu : (api.recorded.update client.target resources).run v with ⟨r, u⟩
  rw [hu] at hrun hresult hcalls
  subst hresult
  cases r with
  | error e => exact ⟨congrArg Prod.fst hrun, (congrArg (·.2.calls) hrun).trans hcalls⟩
  | ok => exact ⟨congrArg Prod.fst hrun, (congrArg (·.2.calls) hrun).trans hcalls⟩

/-- Nothing is asked of the cluster for a file that does not load, or in a dry run. Of a file that
loads, the client's preview lists containers, each with a name, in ascending order. It is what a dry
run prints, in a text that is read back as the same document, and what the one call of another run
carries, if the kind of the target is known. That call alone decides how the command ends. -/
theorem update_sends_as_shown (files : Files) (path : String) (client : Client) :
    (∀ e, ResourcesFile.load path (files path) = .error e →
      ∀ (σ : Type) (api : ControlPlane σ) dryRun v,
        (update files api.recorded client path dryRun).Yields v []
          (.error (.failed (.resources path e)))) ∧
    ∀ resources, ResourcesFile.load path (files path) = .ok resources →
      (client.preview resources).containerNames? = some resources.names ∧
      resources.names ≠ [] ∧ "" ∉ resources.names ∧ resources.names.Pairwise (· < ·) ∧
      Json.document? (Report.patch .indentedJson (client.preview resources)) =
        some (client.preview resources) ∧
      ∀ (σ : Type) (api : ControlPlane σ) v,
        (update files api.recorded client path true).Yields v []
          (.ok (Report.patch .indentedJson (client.preview resources) ++ "\n")) ∧
        (client.target.workload? = none →
          (update files api.recorded client path false).Yields v []
            (.error (.failed (.update client.target (.unknownTargetKind client.target.kind))))) ∧
        ∀ w, client.target.workload? = some w →
          (update files api.recorded client path false).Yields v
            [.patch w client.target.nspace client.target.name (client.preview resources)]
            (match (api.patch w client.target.nspace client.target.name (client.preview resources)
                v.inner).1 with
              | .ok _ => .ok ""
              | .error cause => .error (.failed (.update client.target
                  (.patch w.kind client.target.nspace client.target.name cause)))) := by
  refine ⟨fun e h σ api dryRun v => .of_quiet (update_of_unusable h api.recorded client dryRun v),
    fun resources h => ?_⟩
  obtain ⟨hlisted, hnamed⟩ := ResourcesFile.names_of_load h
  have hshown := Report.document?_patch .indentedJson client.target resources
  refine ⟨containerNames?_resourcePatch _ _, hlisted, hnamed, resources.ascending, hshown,
    fun σ api v => ⟨?_, fun hunknown => ?_, fun w hknown => ?_⟩⟩
  · exact .of_quiet (update_of_dryRun h api.recorded client v)
  · exact update_yields h (.of_quiet (ControlPlane.update_of_unknown resources v hunknown))
  · split
    · next haccepted => exact update_yields h (Client.update_yields hknown haccepted)
    · next cause hrefused => exact update_yields h (Client.update_yields hknown hrefused)

/-- A file with one container, for a deployment in a cluster that refuses every patch. -/
theorem update_sends_as_shown_web :
    let files : Files := fun _ => some "\x7b\"app\":\x7b\x7d\x7d".toUTF8
    let client : Client := ⟨⟨"Deployment", "apps/v1", "web", "ns1"⟩, none⟩
    let resources : Resources := ⟨[("app", {})], List.pairwise_singleton _ _⟩
    let world : World (Recorded Script) := ⟨⟨{ failing := ["patch"] }, []⟩, []⟩
    ResourcesFile.load "r.json" (files "r.json") = .ok resources ∧
      (update files Script.controlPlane.recorded client "r.json" true).Yields world []
        (.ok (Report.patch .indentedJson (client.preview resources) ++ "\n")) ∧
      Json.document? (Report.patch .indentedJson (client.preview resources)) =
        some (client.preview resources) ∧
      (update files Script.controlPlane.recorded client "r.json" false).Yields world
        [.patch .deployment "ns1" "web" (client.preview resources)]
        (.error (.failed (.update client.target
          (.patch "Deployment" "ns1" "web" (Script.unavailable "patch"))))) := by
  intro files client resources world
  have hload : ResourcesFile.load "r.json" (files "r.json") = .ok resources := by
    have hjson : notationOf "r.json" = .json := by decide +kernel
    have hparse : Json.parse? "\x7b\"app\":\x7b\x7d\x7d" = some (.object [("app", .object [])]) := by
      decide +kernel
    rw [load_of_text, hjson]
    simp only [resources?, hparse]
    rfl
  have hknown : client.target.workload? = some .deployment := Workload.ofKind?_kind .deployment
  obtain ⟨-, -, -, -, hshown, hruns⟩ := (update_sends_as_shown files "r.json" client).2 resources hload
  obtain ⟨hdry, -, hsent⟩ := hruns Script Script.controlPlane world
  exact ⟨hload, hdry, hshown, hsent .deployment hknown⟩

end Program

end WorkloadScaling
