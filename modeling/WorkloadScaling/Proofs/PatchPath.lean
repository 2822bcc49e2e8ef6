import Mathlib
import WorkloadScaling.Proofs.PatchEndpoint
import WorkloadScaling.Settings

/-!
# The path of a patch

The namespace and the name of a target stand in the address of its patches as they are. The path
names the target if neither has a mark that ends a path, and among such targets no other has it.
-/
namespace WorkloadScaling

open Http

def Http.isPathEnd (c : Char) : Bool := c == '?' || c == '#'

def Target.Unmarked (t : Target) : Prop :=
  ∀ c ∈ t.nspace.toList ++ t.name.toList, isPathEnd c = false

def rootSegments : List (List Char) :=
  ["", "apis", "apps", "v1", "namespaces"].map String.toList

/-- The last segment of a path is the name, the one before it the plural of the kind, and what
stands between the root and that is the namespace. -/
def Http.Address.Names (a : Address) (w : Workload) (nspace name : String) : Prop :=
  a.path.splitOn '/' =
    rootSegments ++ (nspace.toList.splitOn '/' ++ [w.plural.toList, name.toList])

namespace Workload

lemma plural_injective {w w' : Workload} (h : w.plural = w'.plural) : w = w' := by
  revert h
  cases w <;> cases w' <;> decide

lemma patchPath_splitOn (w : Workload) (nspace : String) {name : String}
    (hname : '/' ∉ name.toList) :
    (w.patchPath nspace name).splitOn '/' =
      rootSegments ++ (nspace.toList.splitOn '/' ++ [w.plural.toList, name.toList]) := by
  rw [patchPath, splitOn_patchRoot, List.splitOn_append_cons_self,
    List.splitOn_append_cons_self_of_not_mem w.slash_notMem_plural,
    List.splitOn_eq_singleton hname]
  rfl

end Workload

namespace Http.Address

variable {a : Address} {w w' : Workload} {nspace nspace' name name' : String}

lemma names_iff (hname : '/' ∉ name.toList) :
    a.Names w nspace name ↔ a.path = w.patchPath nspace name := by
  rw [Names, ← w.patchPath_splitOn nspace hname]
  constructor
  · intro h
    have hjoin := congrArg (List.intercalate ['/']) h
    rwa [List.intercalate_splitOn, List.intercalate_splitOn] at hjoin
  · intro h
    rw [h]

lemma Names.unique (h : a.Names w nspace name) (h' : a.Names w' nspace' name') :
    w = w' ∧ nspace = nspace' ∧ name = name' := by
  have hsegments := List.append_cancel_left (h.symm.trans h')
  obtain ⟨hnspace, hlast⟩ := List.append_inj' hsegments rfl
  obtain ⟨hplural, hname, -⟩ : w.plural.toList = w'.plural.toList ∧
      name.toList = name'.toList ∧ True := by simpa using hlast
  have hjoin := congrArg (List.intercalate ['/']) hnspace
  rw [List.intercalate_splitOn, List.intercalate_splitOn] at hjoin
  exact ⟨Workload.plural_injective (String.toList_inj.mp hplural), String.toList_inj.mp hjoin,
    String.toList_inj.mp hname⟩

end Http.Address

lemma isPathEnd_iff {c : Char} : isPathEnd c = true ↔ c = '?' ∨ c = '#' := by
  simp [isPathEnd]

/-- The path of a patch is the workload's own, up to the first mark. -/
lemma path_of_patchAddress {w : Workload} {nspace name : String} {a : Address}
    (h : Address.ofText? (ControlPlane.patchAddress w nspace name) = some a) :
    a.path = (w.patchPath nspace name).takeWhile (!isPathEnd ·) := by
  have hends : ∀ s : List Char, (s.takeWhile (· ≠ '#')).takeWhile (· ≠ '?') =
      s.takeWhile (!isPathEnd ·) := by
    intro s
    rw [List.takeWhile_takeWhile]
    congr 1
    funext c
    simp [isPathEnd, Bool.beq_eq_decide_eq]
  rw [path_of_ofText? h, patchAddress_toList, hends, List.takeWhile_append]
  have hquery : ['?'].takeWhile (!isPathEnd ·) = [] := rfl
  split
  · next hlength =>
    rw [hquery, List.append_nil]
    exact ((List.takeWhile_prefix _).eq_of_length hlength).symm
  · rfl

lemma Workload.unmarked_plural (w : Workload) : ∀ c ∈ w.plural.toList, isPathEnd c = false := by
  cases w <;> simp [plural, isPathEnd]

lemma unmarked_patchRoot : ∀ c ∈ patchRoot, isPathEnd c = false := by
  intro c hc
  rw [Bool.eq_false_iff, Ne, isPathEnd_iff]
  rintro (rfl | rfl)
  · exact absurd hc (by decide)
  · exact absurd hc (by decide)

lemma Target.unmarked_iff {t : Target} (w : Workload) :
    t.Unmarked ↔
      (w.patchPath t.nspace t.name).takeWhile (!isPathEnd ·) = w.patchPath t.nspace t.name := by
  have hslash : isPathEnd '/' = false := rfl
  rw [List.takeWhile_eq_self_iff]
  simp only [Unmarked, Workload.patchPath, List.forall_mem_append, List.forall_mem_cons,
    Bool.not_eq_true', hslash, true_and]
  constructor
  · rintro ⟨hnspace, hname⟩
    exact ⟨unmarked_patchRoot, hnspace, w.unmarked_plural, hname⟩
  · rintro ⟨-, hnspace, -, hname⟩
    exact ⟨hnspace, hname⟩

/-- Some update of a client sends a request. The client may have read sizes before. -/
def Client.Sends {τ : Type} (serve : Server τ) (c : Client) (request : Request) : Prop :=
  ∃ d, Client.Later (ControlPlane.ofServer serve) c d ∧ ∃ resources start,
    (d.update (ControlPlane.ofServer serve) resources start).2.remote.requests =
      start.remote.requests ++ [request]

namespace Client

variable {τ τ' : Type} {serve : Server τ} {serve' : Server τ'} {c c' : Client}
  {request request' : Request} {asked asked' nspace nspace' : String}

lemma Sends.updates (h : c.Sends serve request) :
    ∃ (d : Client) (resources : Resources), d.target = c.target ∧
      d.updateRequest? resources = some request := by
  obtain ⟨d, hlater, resources, start, hsent⟩ := h
  rw [update_requests] at hsent
  refine ⟨d, resources, hlater.target_eq, ?_⟩
  exact Option.toList_eq_singleton_iff.mp (List.append_cancel_left hsent)

lemma sends_of_updateRequest? {resources : Resources} (start : World (Link τ))
    (h : c.updateRequest? resources = some request) : c.Sends serve request := by
  refine ⟨c, .same, resources, start, ?_⟩
  rw [update_requests, h, Option.toList_some]

lemma Sends.exists_workload (h : c.Sends serve request) :
    request.method = .patch ∧ ∃ w, c.target.workload? = some w := by
  obtain ⟨d, resources, htarget, hrequest⟩ := h.updates
  obtain ⟨w, hworkload, hsome⟩ := Option.bind_eq_some_iff.mp hrequest
  obtain ⟨a, -, rfl⟩ := Option.map_eq_some_iff.mp hsome
  exact ⟨rfl, w, htarget ▸ hworkload⟩

lemma Sends.path_eq {w : Workload} (h : c.Sends serve request)
    (hw : c.target.workload? = some w) : request.address.path =
      (w.patchPath c.target.nspace c.target.name).takeWhile (!isPathEnd ·) := by
  obtain ⟨d, resources, htarget, hrequest⟩ := h.updates
  obtain ⟨w', hworkload, hsome⟩ := Option.bind_eq_some_iff.mp hrequest
  obtain ⟨a, ha, rfl⟩ := Option.map_eq_some_iff.mp hsome
  rw [htarget] at hworkload ha
  obtain rfl := Option.some.inj (hw.symm.trans hworkload)
  exact path_of_patchAddress ha

lemma Sends.names_iff {w : Workload} (h : c.Sends serve request)
    (hw : c.target.workload? = some w) (hname : '/' ∉ c.target.name.toList) :
    request.address.Names w c.target.nspace c.target.name ↔ c.target.Unmarked := by
  rw [Address.names_iff hname, h.path_eq hw, c.target.unmarked_iff w]

lemma connect_name {v v' : World (Link τ)}
    (h : (connect (ControlPlane.ofServer serve) asked nspace).run v = (.ok c, v')) :
    c.target.nspace = nspace ∧ '/' ∉ c.target.name.toList ∧
      ∃ hint, asked = hint ++ "/" ++ c.target.name := by
  obtain ⟨hint, name, _, _, _, _, hhalves, -, -, -, rfl⟩ := connect_eq_ok h
  obtain ⟨hasked, -, hname⟩ := Target.halves?_eq_some_iff.mp hhalves
  exact ⟨rfl, hname, hint, hasked⟩

/-- The path of a patch names the target that was asked for if and only if no mark in its
namespace or name ends the path early. Two such targets have one path only if they are one. -/
theorem patch_path_names {v u : World (Link τ)} {v' u' : World (Link τ')}
    (h : (connect (ControlPlane.ofServer serve) asked nspace).run v = (.ok c, u))
    (h' : (connect (ControlPlane.ofServer serve') asked' nspace').run v' = (.ok c', u')) :
    (∀ request, c.Sends serve request → ∃ hint w, asked = hint ++ "/" ++ c.target.name ∧
      c.target.nspace = nspace ∧ c.target.workload? = some w ∧ request.method = .patch ∧
      request.address.path =
        (w.patchPath c.target.nspace c.target.name).takeWhile (!isPathEnd ·) ∧
      (request.address.Names w c.target.nspace c.target.name ↔ c.target.Unmarked)) ∧
    ∀ request request', c.Sends serve request → c'.Sends serve' request' →
      c.target.Unmarked → c'.target.Unmarked →
        (request.address.path = request'.address.path ↔
          c.target.workload? = c'.target.workload? ∧ c.target.nspace = c'.target.nspace ∧
            c.target.name = c'.target.name) := by
  obtain ⟨hnspace, hname, hint, hasked⟩ := connect_name h
  obtain ⟨-, hname', -⟩ := connect_name h'
  constructor
  · intro request hsends
    obtain ⟨hmethod, w, hw⟩ := hsends.exists_workload
    exact ⟨hint, w, hasked, hnspace, hw, hmethod, hsends.path_eq hw, hsends.names_iff hw hname⟩
  · intro request request' hsends hsends' hunmarked hunmarked'
    obtain ⟨-, w, hw⟩ := hsends.exists_workload
    obtain ⟨-, w', hw'⟩ := hsends'.exists_workload
    rw [hw, hw', Option.some.injEq]
    constructor
    · intro hsame
      have hnames := (hsends.names_iff hw hname).mpr hunmarked
      have hnames' := (hsends'.names_iff hw' hname').mpr hunmarked'
      rw [Address.Names, ← hsame] at hnames'
      exact hnames.unique hnames'
    · rintro ⟨rfl, hsameNspace, hsameName⟩
      rw [hsends.path_eq hw, hsends'.path_eq hw', hsameNspace, hsameName]

def ofDeployment (name : String) : Client := ⟨⟨"Deployment", "apps/v1", name, "ns1"⟩, none⟩

lemma connect_ofDeployment {name : String} (hname : '/' ∉ name.toList) :
    ∃ u, (connect (ControlPlane.ofServer Routes.serve) ("deployment" ++ "/" ++ name) "ns1").run
      ⟨⟨deploymentsUnder "apps" "v1", []⟩, []⟩ = (.ok (ofDeployment name), u) := by
  obtain ⟨_, hweb⟩ : ∃ u,
      (connect (ControlPlane.ofServer Routes.serve) ("deployment" ++ "/" ++ "web") "ns1").run
        ⟨⟨deploymentsUnder "apps" "v1", []⟩, []⟩ = (.ok (ofDeployment "web"), u) :=
    exists_snd_eq (by decide +kernel)
  obtain ⟨hint, web, w, catalog, _, served, hhalves, hhint, hcatalog, hfind, hclient⟩ :=
    connect_eq_ok hweb
  obtain ⟨rfl, rfl⟩ := Target.halves?_join hhalves
  obtain ⟨hkind, hversion, -⟩ := Target.mk.inj (Client.mk.inj hclient).1
  have hasked : Workload.ofKind? "deployment" = some .deployment := by decide +kernel
  obtain rfl := Option.some.inj (hasked.symm.trans hhint)
  obtain ⟨u, hconnect⟩ := connect_deployment "ns1" hname hcatalog hfind
  rw [← hkind, ← hversion] at hconnect
  exact ⟨u, hconnect⟩

lemma workload?_ofDeployment (name : String) :
    (ofDeployment name).target.workload? = some .deployment :=
  Workload.ofKind?_kind .deployment

lemma exists_sends_ofDeployment (name : String)
    (haddress : (Address.ofText? (ControlPlane.patchAddress .deployment "ns1" name)).isSome = true) :
    ∃ request, (ofDeployment name).Sends Routes.serve request := by
  obtain ⟨request, hrequest⟩ := (ofDeployment name).exists_request .empty
    (workload?_ofDeployment name) haddress
  exact ⟨request, sends_of_updateRequest? ⟨⟨[], []⟩, []⟩ hrequest⟩

theorem patch_path_names_deployments :
    ∃ u u' request request',
      (connect (ControlPlane.ofServer Routes.serve) ("deployment" ++ "/" ++ "web") "ns1").run
        ⟨⟨deploymentsUnder "apps" "v1", []⟩, []⟩ = (.ok (ofDeployment "web"), u) ∧
      (connect (ControlPlane.ofServer Routes.serve) ("deployment" ++ "/" ++ "db") "ns1").run
        ⟨⟨deploymentsUnder "apps" "v1", []⟩, []⟩ = (.ok (ofDeployment "db"), u') ∧
      (ofDeployment "web").Sends Routes.serve request ∧
      (ofDeployment "db").Sends Routes.serve request' ∧
      request.address.Names .deployment "ns1" "web" ∧
      request.address.path ≠ request'.address.path := by
  obtain ⟨u, hweb⟩ := connect_ofDeployment (by decide : '/' ∉ "web".toList)
  obtain ⟨u', hdb⟩ := connect_ofDeployment (by decide : '/' ∉ "db".toList)
  obtain ⟨request, hsends⟩ := exists_sends_ofDeployment "web" (by decide +kernel)
  obtain ⟨request', hsends'⟩ := exists_sends_ofDeployment "db" (by decide +kernel)
  have hunmarked : (ofDeployment "web").target.Unmarked := by
    simp [Target.Unmarked, ofDeployment, isPathEnd]
  have hunmarked' : (ofDeployment "db").target.Unmarked := by
    simp [Target.Unmarked, ofDeployment, isPathEnd]
  obtain ⟨hone, htwo⟩ := patch_path_names hweb hdb
  obtain ⟨_, w, -, -, hworkload, -, -, hnames⟩ := hone request hsends
  obtain rfl := Option.some.inj ((workload?_ofDeployment "web").symm.trans hworkload)
  refine ⟨u, u', request, request', hweb, hdb, hsends, hsends', hnames.mpr hunmarked,
    fun hsame => ?_⟩
  obtain ⟨-, -, hname⟩ := (htwo request request' hsends hsends' hunmarked hunmarked').mp hsame
  exact absurd hname (by decide)

/-- Two accepted targets of which one is patched in the other's place. -/
theorem patch_path_shared :
    (∃ s, Settings.validate ⟨"ns1", "deployment" ++ "/" ++ "web", none⟩ = .ok s) ∧
    (∃ s, Settings.validate ⟨"ns1", "deployment" ++ "/" ++ "web#x", none⟩ = .ok s) ∧
    ∃ c c' u u' request request',
      (connect (ControlPlane.ofServer Routes.serve) ("deployment" ++ "/" ++ "web") "ns1").run
        ⟨⟨deploymentsUnder "apps" "v1", []⟩, []⟩ = (.ok c, u) ∧
      (connect (ControlPlane.ofServer Routes.serve) ("deployment" ++ "/" ++ "web#x") "ns1").run
        ⟨⟨deploymentsUnder "apps" "v1", []⟩, []⟩ = (.ok c', u') ∧
      c.Sends Routes.serve request ∧ c'.Sends Routes.serve request' ∧
      request.address.path = request'.address.path ∧ c.target.name ≠ c'.target.name := by
  obtain ⟨u, hweb⟩ := connect_ofDeployment (by decide : '/' ∉ "web".toList)
  obtain ⟨u', hother⟩ := connect_ofDeployment (by decide : '/' ∉ "web#x".toList)
  obtain ⟨request, hsends⟩ := exists_sends_ofDeployment "web" (by decide +kernel)
  obtain ⟨request', hsends'⟩ := exists_sends_ofDeployment "web#x" (by decide +kernel)
  have hcut : (Workload.patchPath .deployment "ns1" "web").takeWhile (!isPathEnd ·) =
      (Workload.patchPath .deployment "ns1" "web#x").takeWhile (!isPathEnd ·) := by
    decide +kernel
  have hpath := hsends.path_eq (workload?_ofDeployment "web")
  have hpath' := hsends'.path_eq (workload?_ofDeployment "web#x")
  exact ⟨⟨_, rfl⟩, ⟨_, rfl⟩, _, _, u, u', request, request', hweb, hother, hsends, hsends',
    hpath.trans (hcut.trans hpath'.symm), by decide⟩

end Client

end WorkloadScaling
