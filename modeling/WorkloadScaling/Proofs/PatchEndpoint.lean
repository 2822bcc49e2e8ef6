import Mathlib
import WorkloadScaling.ControlPlane.Http
import WorkloadScaling.Http.Routes
import WorkloadScaling.Proofs.ClientRun

/-!
# The endpoint of a patch

A patch names a group and version twice: in the path it is sent to, and in the document. The path
has a fixed one and the document has the one that was discovered.
-/
namespace WorkloadScaling

open Http

/-- The group and version under which an address lies, written as an API version. -/
def Http.Address.groupVersion? (a : Address) : Option String :=
  match a.path.splitOn '/' with
  | [] :: ['a', 'p', 'i', 's'] :: group :: version :: _ :: _ =>
    some (String.ofList (group ++ '/' :: version))
  | _ => none

def Json.apiVersion? (document : Json) : Option String := document.textAt? "apiVersion"

structure Http.Request.Carries (request : Request) (document : Json) : Prop where
  method : request.method = .patch
  body : request.body = document.compact

def patchRoot : List Char := "/apis/apps/v1/namespaces/".toList

def Workload.patchPath (w : Workload) (nspace name : String) : List Char :=
  patchRoot ++ (nspace.toList ++ '/' :: (w.plural.toList ++ '/' :: name.toList))

lemma patchAddress_toList (w : Workload) (nspace name : String) :
    (ControlPlane.patchAddress w nspace name).toList = w.patchPath nspace name ++ ['?'] := by
  unfold ControlPlane.patchAddress Workload.patchPath
  simp only [String.toList_append, List.append_assoc, List.cons_append]
  rfl

lemma takeWhile_patchRoot {c : Char} (hc : c ∉ patchRoot) (rest : List Char) :
    (patchRoot ++ rest).takeWhile (· ≠ c) = patchRoot ++ rest.takeWhile (· ≠ c) := by
  apply List.takeWhile_append_of_pos
  intro d hd
  exact decide_eq_true fun he => hc (he ▸ hd)

lemma splitOn_patchRoot (rest : List Char) :
    (patchRoot ++ rest).splitOn '/' =
      [] :: ['a', 'p', 'i', 's'] :: ['a', 'p', 'p', 's'] :: ['v', '1'] ::
        "namespaces".toList :: rest.splitOn '/' := by
  have hroot : patchRoot ++ rest = [] ++ '/' :: (['a', 'p', 'i', 's'] ++ '/' ::
      (['a', 'p', 'p', 's'] ++ '/' :: (['v', '1'] ++ '/' ::
        ("namespaces".toList ++ '/' :: rest)))) := rfl
  rw [hroot, List.splitOn_append_cons_self_of_not_mem (by decide),
    List.splitOn_append_cons_self_of_not_mem (by decide),
    List.splitOn_append_cons_self_of_not_mem (by decide),
    List.splitOn_append_cons_self_of_not_mem (by decide),
    List.splitOn_append_cons_self_of_not_mem (by decide)]

lemma path_of_ofText? {s : String} {a : Address} (h : Address.ofText? s = some a) :
    a.path = (s.toList.takeWhile (· ≠ '#')).takeWhile (· ≠ '?') := by
  unfold Address.ofText? at h
  simp only [Option.ite_none_left_eq_some, Option.ite_none_right_eq_some] at h
  obtain ⟨-, -, h⟩ := h
  split at h
  · cases h
    rfl
  · obtain ⟨-, h⟩ := Option.ite_none_right_eq_some.mp h
    cases h
    rfl

/-- No name can move a patch out of the group and version that it is sent to. -/
lemma groupVersion?_of_patchAddress {w : Workload} {nspace name : String} {a : Address}
    (h : Address.ofText? (ControlPlane.patchAddress w nspace name) = some a) :
    a.groupVersion? = some "apps/v1" := by
  have hpath := path_of_ofText? h
  rw [patchAddress_toList, Workload.patchPath, List.append_assoc,
    takeWhile_patchRoot (by decide), takeWhile_patchRoot (by decide)] at hpath
  rw [Address.groupVersion?, hpath, splitOn_patchRoot]
  rfl

/-- The request that an update sends, if it sends one. -/
def Client.updateRequest? (c : Client) (resources : Resources) : Option Request :=
  c.target.workload?.bind fun w =>
    (Address.ofText? (ControlPlane.patchAddress w c.target.nspace c.target.name)).map
      (ControlPlane.patchRequest · (c.preview resources))

variable {τ : Type} {serve : Server τ}

lemma patch_requests (w : Workload) (nspace name : String) (document : Json)
    (v : World (Link τ)) :
    ((ControlPlane.ofServer serve).patch w nspace name document v).2.remote.requests =
      v.remote.requests ++ ((Address.ofText? (ControlPlane.patchAddress w nspace name)).map
        (ControlPlane.patchRequest · document)).toList := by
  change ((ControlPlane.sendPatch serve w nspace name document).run v).2.remote.requests = _
  unfold ControlPlane.sendPatch
  cases Address.ofText? (ControlPlane.patchAddress w nspace name) with
  | none => exact (List.append_nil _).symm
  | some a => rfl

theorem update_requests (c : Client) (resources : Resources) (v : World (Link τ)) :
    (c.update (ControlPlane.ofServer serve) resources v).2.remote.requests =
      v.remote.requests ++ (c.updateRequest? resources).toList := by
  unfold Client.update Client.updateRequest?
  cases hworkload : c.target.workload? with
  | none =>
    rw [ControlPlane.update_of_unknown resources v hworkload]
    exact (List.append_nil _).symm
  | some w =>
    rw [ControlPlane.update_remote resources v hworkload, patch_requests]
    rfl

lemma updateRequest?_eq_some {c : Client} {resources : Resources} {request : Request}
    (h : c.updateRequest? resources = some request) :
    request.Carries (c.preview resources) ∧ request.address.groupVersion? = some "apps/v1" := by
  obtain ⟨w, -, h⟩ := Option.bind_eq_some_iff.mp h
  obtain ⟨a, ha, rfl⟩ := Option.map_eq_some_iff.mp h
  exact ⟨⟨rfl, rfl⟩, groupVersion?_of_patchAddress ha⟩

lemma Client.exists_request {c : Client} {w : Workload} (resources : Resources)
    (hworkload : c.target.workload? = some w)
    (haddress : (Address.ofText?
      (ControlPlane.patchAddress w c.target.nspace c.target.name)).isSome = true) :
    ∃ request, c.updateRequest? resources = some request := by
  obtain ⟨a, ha⟩ := Option.isSome_iff_exists.mp haddress
  exact ⟨_, Option.bind_eq_some_iff.mpr ⟨_, hworkload, Option.map_eq_some_iff.mpr ⟨a, ha, rfl⟩⟩⟩

lemma preview_apiVersion? (c : Client) (resources : Resources) :
    (c.preview resources).apiVersion? = some c.target.groupVersion := rfl

/-- Every document states the version that was discovered. The path it is sent to names the same
one if and only if that is `apps/v1`. -/
theorem update_endpoint_iff {asked nspace : String} {v v' : World (Link τ)} {c : Client}
    (h : (Client.connect (ControlPlane.ofServer serve) asked nspace).run v = (.ok c, v')) :
    ∃ hint name w catalog u served, Target.halves? asked = some (hint, name) ∧
      Workload.ofKind? hint = some w ∧
      (ControlPlane.ofServer serve).catalog v = (.ok catalog, u) ∧
      catalog.find? w = some served ∧
      ∀ d, Client.Later (ControlPlane.ofServer serve) c d → ∀ resources start, ∃ sent,
        (d.update (ControlPlane.ofServer serve) resources start).2.remote.requests =
          start.remote.requests ++ sent ∧
        sent.length ≤ 1 ∧
        ∀ request ∈ sent, request.Carries (d.preview resources) ∧
          (d.preview resources).apiVersion? = some served.groupVersion ∧
          (request.address.groupVersion? = (d.preview resources).apiVersion? ↔
            served.groupVersion = "apps/v1") := by
  obtain ⟨hint, name, w, catalog, u, served, hhalves, hhint, hcatalog, hfind, rfl⟩ :=
    Client.connect_eq_ok h
  refine ⟨hint, name, w, catalog, u, served, hhalves, hhint, hcatalog, hfind, ?_⟩
  intro d hd resources start
  have hversion : (d.preview resources).apiVersion? = some served.groupVersion := by
    rw [preview_apiVersion?, hd.target_eq]
  refine ⟨_, update_requests d resources start, ?_, fun request hrequest => ?_⟩
  · cases d.updateRequest? resources <;> simp
  · obtain ⟨hcarries, hpath⟩ := updateRequest?_eq_some (Option.mem_toList.mp hrequest)
    refine ⟨hcarries, hversion, ?_⟩
    rw [hpath, hversion, Option.some.injEq, eq_comm]

def deploymentsUnder (group version : String) : Routes :=
  let groupVersion := group ++ "/" ++ version
  let answer (body : String) : Outcome := .answer 200 body.toUTF8
  [("GET /api", answer "\x7b\"versions\":[]\x7d"),
    ("GET /apis", answer ("\x7b\"groups\":[\x7b\"name\":\"" ++ group ++ "\",\"versions\":[" ++
      "\x7b\"groupVersion\":\"" ++ groupVersion ++ "\",\"version\":\"" ++ version ++
      "\"\x7d]\x7d]\x7d")),
    ("GET /apis/" ++ groupVersion, answer ("\x7b\"groupVersion\":\"" ++ groupVersion ++
      "\",\"resources\":[\x7b\"name\":\"deployments\",\"kind\":\"Deployment\"," ++
      "\"namespaced\":true,\"singularName\":\"\",\"verbs\":[]\x7d]\x7d")),
    ("PATCH /apis/" ++ groupVersion ++ "/namespaces/ns1/deployments/web", answer "\x7b\x7d")]

def deploymentClient (groupVersion : String) : Client :=
  ⟨⟨"Deployment", groupVersion, "web", "ns1"⟩, none⟩

lemma exists_updateRequest? (groupVersion : String) (resources : Resources) :
    ∃ request, (deploymentClient groupVersion).updateRequest? resources = some request :=
  have haddress : (Address.ofText? (ControlPlane.patchAddress .deployment "ns1" "web")).isSome =
      true := by decide +kernel
  Client.exists_request resources (Workload.ofKind?_kind .deployment) haddress

lemma exists_snd_eq {α β : Type} {x : α × β} {a : α} (h : x.1 = a) : ∃ b, x = (a, b) :=
  ⟨x.2, Prod.ext h rfl⟩

theorem update_endpoint_apps :
    ∃ c v' request,
      (Client.connect (ControlPlane.ofServer Routes.serve) "deployment/web" "ns1").run
        ⟨⟨deploymentsUnder "apps" "v1", []⟩, []⟩ = (.ok c, v') ∧
      (c.update (ControlPlane.ofServer Routes.serve) .empty v').2.remote.requests =
        v'.remote.requests ++ [request] ∧
      request.address.groupVersion? = (c.preview .empty).apiVersion? := by
  obtain ⟨v', hconnect⟩ : ∃ v',
      (Client.connect (ControlPlane.ofServer Routes.serve) "deployment/web" "ns1").run
        ⟨⟨deploymentsUnder "apps" "v1", []⟩, []⟩ = (.ok (deploymentClient "apps/v1"), v') :=
    exists_snd_eq (by decide +kernel)
  obtain ⟨request, hrequest⟩ := exists_updateRequest? "apps/v1" .empty
  have hrequests : ((deploymentClient "apps/v1").update (ControlPlane.ofServer Routes.serve) .empty
      v').2.remote.requests = v'.remote.requests ++ [request] := by
    rw [update_requests, hrequest, Option.toList_some]
  obtain ⟨_, _, _, _, _, served, -, -, -, -, hlater⟩ := update_endpoint_iff hconnect
  obtain ⟨sent, hsent, -, hall⟩ := hlater _ .same .empty v'
  have hmem : request ∈ sent := by
    rw [List.append_cancel_left (hsent.symm.trans hrequests)]
    exact List.mem_singleton_self _
  obtain ⟨-, hversion, hiff⟩ := hall request hmem
  rw [preview_apiVersion?] at hversion
  exact ⟨_, v', request, hconnect, hrequests, hiff.mpr (Option.some.inj hversion).symm⟩

/-- A client whose patches state the version that was discovered and are all sent to another. -/
theorem update_endpoint_extensions :
    ∃ c v',
      (Client.connect (ControlPlane.ofServer Routes.serve) "deployment/web" "ns1").run
        ⟨⟨deploymentsUnder "extensions" "v1beta1", []⟩, []⟩ = (.ok c, v') ∧
      ∀ resources, ∃ request,
        (c.update (ControlPlane.ofServer Routes.serve) resources v').2.remote.requests =
          v'.remote.requests ++ [request] ∧
        request.Carries (c.preview resources) ∧
        (c.preview resources).apiVersion? = some "extensions/v1beta1" ∧
        request.address.groupVersion? = some "apps/v1" := by
  obtain ⟨v', hconnect⟩ : ∃ v',
      (Client.connect (ControlPlane.ofServer Routes.serve) "deployment/web" "ns1").run
        ⟨⟨deploymentsUnder "extensions" "v1beta1", []⟩, []⟩ =
          (.ok (deploymentClient "extensions/v1beta1"), v') :=
    exists_snd_eq (by decide +kernel)
  refine ⟨_, v', hconnect, fun resources => ?_⟩
  obtain ⟨request, hrequest⟩ := exists_updateRequest? "extensions/v1beta1" resources
  obtain ⟨hcarries, hpath⟩ := updateRequest?_eq_some hrequest
  refine ⟨request, ?_, hcarries, preview_apiVersion? _ resources, hpath⟩
  rw [update_requests, hrequest, Option.toList_some]

end WorkloadScaling
