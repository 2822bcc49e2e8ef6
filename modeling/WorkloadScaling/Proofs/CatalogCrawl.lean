import Mathlib
import WorkloadScaling.Proofs.CatalogDocuments
import WorkloadScaling.Proofs.Exchange

/-!
# The crawl of a catalog

A catalog is gathered by a plan: the versions of the core group and the resources of the first,
the named groups and the resources of the version that each prefers. The plan is followed until
a step fails, and then there is no catalog.
-/
namespace WorkloadScaling

open Http ControlPlane

namespace CrawlStep

def address : CrawlStep → String
  | coreVersions => "/api"
  | coreResources version => "/api/" ++ version
  | groups => "/apis"
  | groupResources groupVersion => "/apis/" ++ groupVersion

structure Sends (step : CrawlStep) (request : Request) : Prop where
  plain : request = { method := .get, address := request.address }
  address : Address.ofText? step.address = some request.address

end CrawlStep

namespace CrawlAnswer

/-- An answer does not contradict these core versions and named groups. -/
def Fits (core : List String) (groups : List ApiGroup) : CrawlAnswer → Prop
  | .versions core' => core' = core
  | .groups groups' => groups' = groups
  | .resources _ => True

def list? : CrawlAnswer → Option ResourceList
  | .resources list => some list
  | _ => none

end CrawlAnswer

def coreSteps (core : List String) : List CrawlStep :=
  .coreVersions :: (core.head?.map .coreResources).toList

def groupSteps (groups : List ApiGroup) : List CrawlStep :=
  (groups.filterMap ApiGroup.asked?).map .groupResources

def crawlPlan (core : List String) (groups : List ApiGroup) : List CrawlStep :=
  coreSteps core ++ .groups :: groupSteps groups

/-- A list is kept without its cluster-wide resources and without parts of resources. -/
structure ResourceList.KeptAs (list kept : ResourceList) : Prop where
  groupVersion : kept.groupVersion = list.groupVersion
  resources : kept.resources =
    list.resources.filter fun e => ¬(e.isNamespaced = false ∨ '/' ∈ e.name.toList)

variable {τ : Type} {serve : Server τ}

/-- Steps are taken in turn until one fails; the steps behind it are not taken. -/
inductive Follows (serve : Server τ) :
    τ → List CrawlStep → List CrawlAnswer → List Request → Option RemoteFailure → τ → Prop
  | done (s : τ) : Follows serve s [] [] [] none s
  | taken {s s' s'' : τ} {step : CrawlStep} {steps : List CrawlStep} {answer : CrawlAnswer}
      {answers : List CrawlAnswer} {sent requests : List Request} {failure : Option RemoteFailure}
      (asking : Asking serve step.address step.read? s sent (.ok answer) s')
      (rest : Follows serve s' steps answers requests failure s'') :
      Follows serve s (step :: steps) (answer :: answers) (sent ++ requests) failure s''
  | stopped {s s' : τ} {step : CrawlStep} {steps : List CrawlStep} {sent : List Request}
      {e : RemoteFailure} (asking : Asking serve step.address step.read? s sent (.error e) s') :
      Follows serve s (step :: steps) [] sent (some e) s'

namespace Follows

variable {s s' s'' : τ} {steps steps' : List CrawlStep} {answers answers' : List CrawlAnswer}
  {requests requests' : List Request} {failure : Option RemoteFailure}

lemma append (h : Follows serve s steps answers requests none s')
    (h' : Follows serve s' steps' answers' requests' failure s'') :
    Follows serve s (steps ++ steps') (answers ++ answers') (requests ++ requests') failure s'' := by
  -- The first plan was followed to its end, which is where the second one begins.
  generalize hnone : (none : Option RemoteFailure) = ending at h
  induction h with
  | done s => exact h'
  | taken asking _ ih =>
    rw [List.append_assoc]
    exact .taken asking (ih h' hnone)
  | stopped asking => cases hnone

lemma append_of_failed {e : RemoteFailure} (h : Follows serve s steps answers requests (some e) s')
    (more : List CrawlStep) : Follows serve s (steps ++ more) answers requests (some e) s' := by
  generalize hsome : some e = ending at h
  induction h with
  | done s => cases hsome
  | taken asking _ ih => exact .taken asking (ih hsome)
  | stopped asking =>
    cases hsome
    exact .stopped asking

/-- The requests are those of the first steps of the plan, and of all steps if none fails. -/
theorem exists_sends (h : Follows serve s steps answers requests failure s') :
    ∃ sent rest, steps = sent ++ rest ∧ List.Forall₂ CrawlStep.Sends sent requests ∧
      (failure = none → rest = []) := by
  induction h with
  | done s => exact ⟨[], [], rfl, .nil, fun _ => rfl⟩
  | @taken _ _ _ step _ _ _ _ _ _ asking _ ih =>
    obtain ⟨sent, rest, rfl, hsends, hall⟩ := ih
    cases asking with
    | asked valid served read =>
      exact ⟨step :: sent, rest, rfl, .cons ⟨rfl, valid⟩ hsends, hall⟩
  | @stopped _ _ step steps _ _ asking =>
    cases asking with
    | unaddressable invalid => exact ⟨[], step :: steps, rfl, .nil, by simp⟩
    | asked valid served read => exact ⟨[step], steps, rfl, .cons ⟨rfl, valid⟩ .nil, by simp⟩

end Follows

def failure? {α : Type} : Except RemoteFailure α → Option RemoteFailure
  | .ok _ => none
  | .error e => some e

structure Takes {α : Type} (serve : Server τ) (x : ExceptT RemoteFailure (Run (Link τ)) α)
    (v v' : World (Link τ)) (steps : List CrawlStep) (answers : List CrawlAnswer)
    (requests : List Request) (result : Except RemoteFailure α) : Prop where
  ran : x.run v = (result, v')
  followed : Follows serve v.remote.server steps answers requests (failure? result)
    v'.remote.server
  requests : v'.remote.requests = v.remote.requests ++ requests

namespace Takes

variable {α β : Type} {x : ExceptT RemoteFailure (Run (Link τ)) α}
  {f : α → ExceptT RemoteFailure (Run (Link τ)) β} {v v' v'' : World (Link τ)}
  {steps steps' : List CrawlStep} {answers answers' : List CrawlAnswer}
  {requests requests' : List Request} {a : α} {e : RemoteFailure} {result : Except RemoteFailure β}

lemma pure (a : α) (v : World (Link τ)) : Takes serve (Pure.pure a) v v [] [] [] (.ok a) :=
  ⟨rfl, .done _, (List.append_nil _).symm⟩

lemma bind (h : Takes serve x v v' steps answers requests (.ok a))
    (h' : Takes serve (f a) v' v'' steps' answers' requests' result) :
    Takes serve (x >>= f) v v'' (steps ++ steps') (answers ++ answers') (requests ++ requests')
      result where
  ran := by rw [ExceptT.run_bind, Run.bind_apply, h.ran, ← h'.ran]
  followed := h.followed.append h'.followed
  requests := by rw [h'.requests, h.requests, List.append_assoc]

lemma bind_of_failed (h : Takes serve x v v' steps answers requests (.error e))
    (f : α → ExceptT RemoteFailure (Run (Link τ)) β) (more : List CrawlStep) :
    Takes serve (x >>= f) v v' (steps ++ more) answers requests (.error e) where
  ran := by
    rw [ExceptT.run_bind, Run.bind_apply, h.ran]
    rfl
  followed := h.followed.append_of_failed more
  requests := h.requests

lemma map (h : Takes serve x v v' steps answers requests (.ok a)) (g : α → β) :
    Takes serve (g <$> x) v v' steps answers requests (.ok (g a)) where
  ran := by
    rw [ExceptT.run_map, map_eq_pure_bind, Run.bind_apply, h.ran]
    rfl
  followed := h.followed
  requests := h.requests

lemma map_of_failed (h : Takes serve x v v' steps answers requests (.error e)) (g : α → β) :
    Takes serve (g <$> x) v v' steps answers requests (.error e) where
  ran := by
    rw [ExceptT.run_map, map_eq_pure_bind, Run.bind_apply, h.ran]
    rfl
  followed := h.followed
  requests := h.requests

lemma log (serve : Server τ) (level : Log.Level) (text : String)
    (fields : List (String × String)) (v : World (Link τ)) :
    Takes serve (ExceptT.lift (Run.log level text fields)) v (v.logged [⟨level, text, fields⟩])
      [] [] [] (.ok ()) :=
  ⟨rfl, .done _, (List.append_nil _).symm⟩

end Takes

lemma takes_get {α : Type} (serve : Server τ) (step : CrawlStep) {read? : Json → Option α}
    (wrap : α → CrawlAnswer) (hread : step.read? = fun v => (read? v).map wrap)
    (v : World (Link τ)) :
    (∃ a v' requests, Takes serve (get serve .unaddressable step.address read?) v v'
      [step] [wrap a] requests (.ok a)) ∨
    ∃ e v' requests, Takes serve (get serve .unaddressable step.address read?) v v'
      [step] [] requests (.error e) := by
  obtain ⟨sent, result, v', hrun, hasking, hrequests⟩ :=
    asking_get serve step.address read? v
  have hstep := hasking.map wrap
  rw [← hread] at hstep
  cases result with
  | error e => exact .inr ⟨e, v', sent, hrun, .stopped hstep, hrequests⟩
  | ok a =>
    refine .inl ⟨a, v', sent, hrun, ?_, hrequests⟩
    rw [← List.append_nil sent]
    exact .taken hstep (.done _)

lemma keptAs_namespacedOnly (list : ResourceList) : list.KeptAs list.namespacedOnly where
  groupVersion := rfl
  resources := by
    unfold ResourceList.namespacedOnly
    refine List.filter_congr fun e _ => ?_
    simp [CatalogEntry.isWorkloadLike]

lemma takes_getResources (serve : Server τ) (step : CrawlStep)
    (hread : step.read? = fun v => (ResourceList.ofJson? v).map .resources) (v : World (Link τ)) :
    (∃ list v' requests, Takes serve (getResources serve step.address) v v'
      [step] [.resources list] requests (.ok list.namespacedOnly)) ∨
    ∃ e v' requests, Takes serve (getResources serve step.address) v v'
      [step] [] requests (.error e) := by
  rcases takes_get serve step .resources hread v with ⟨list, v', requests, h⟩ | ⟨e, v', requests, h⟩
  · exact .inl ⟨list, v', requests, h.map _⟩
  · exact .inr ⟨e, v', requests, h.map_of_failed _⟩

lemma takes_getCore (serve : Server τ) (v : World (Link τ)) :
    ∃ core v' answers requests result,
      Takes serve (getCore serve) v v' (coreSteps core) answers requests result ∧
        (∀ groups, ∀ answer ∈ answers, answer.Fits core groups) ∧
        ∀ lists, result = .ok lists →
          List.Forall₂ ResourceList.KeptAs (answers.filterMap CrawlAnswer.list?) lists := by
  unfold getCore
  rcases takes_get serve .coreVersions .versions rfl v with
    ⟨core, u, requests, hversions⟩ | ⟨e, u, requests, hversions⟩
  · cases core with
    | nil =>
      refine ⟨[], _, _, _, _, hversions.bind (.pure [] u), ?_, ?_⟩
      · simp [CrawlAnswer.Fits]
      · rintro lists ⟨⟩
        exact .nil
    | cons version rest =>
      rcases takes_getResources serve (.coreResources version) rfl u with
        ⟨list, u', requests', hlist⟩ | ⟨e, u', requests', hlist⟩
      · refine ⟨version :: rest, _, _, _, _, hversions.bind (hlist.bind (.pure [_] u')), ?_, ?_⟩
        · simp [CrawlAnswer.Fits]
        · rintro lists ⟨⟩
          exact .cons (keptAs_namespacedOnly list) .nil
      · refine ⟨version :: rest, _, _, _, _, hversions.bind (hlist.bind_of_failed _ []), ?_, ?_⟩
        · simp [CrawlAnswer.Fits]
        · rintro lists ⟨⟩
  · refine ⟨[], _, _, _, _, hversions.bind_of_failed _ [], ?_, ?_⟩
    · simp
    · rintro lists ⟨⟩

lemma groupVersions?_eq (v : Json) :
    groupVersions? v = (ApiGroup.listOfJson? v).map (List.map ApiGroup.asked?) := by
  have hgroup : ∀ group, groupVersion? group = (ApiGroup.ofJson group).asked? := by
    intro group
    unfold groupVersion? ApiGroup.ofJson ApiGroup.asked?
    cases group.member? "preferredVersion" with
    | none =>
      rw [List.head?_map]
      rfl
    | some preferred => rfl
  unfold groupVersions? ApiGroup.listOfJson?
  split
  · simp [hgroup]
  · rfl

lemma groupSteps_cons (g : ApiGroup) (groups : List ApiGroup) :
    groupSteps (g :: groups) = groupSteps [g] ++ groupSteps groups := by
  unfold groupSteps
  rw [← List.singleton_append, List.filterMap_append, List.map_append]

lemma takes_getGroup (serve : Server τ) (g : ApiGroup) (v : World (Link τ)) :
    ∃ v' answers requests result,
      Takes serve (getGroup serve g.asked?) v v' (groupSteps [g]) answers requests result ∧
        (∀ answer ∈ answers, ∃ list, answer = .resources list) ∧
        ∀ lists, result = .ok lists →
          List.Forall₂ ResourceList.KeptAs (answers.filterMap CrawlAnswer.list?) lists := by
  cases hasked : g.asked? with
  | none =>
    have hsteps : groupSteps [g] = [] := by simp [groupSteps, hasked]
    rw [hsteps]
    refine ⟨v, _, _, _, .pure [] v, by simp, ?_⟩
    rintro lists ⟨⟩
    exact .nil
  | some groupVersion =>
    have hsteps : groupSteps [g] = [.groupResources groupVersion] := by
      simp [groupSteps, hasked]
    have hlog := Takes.log serve .debug "listing group resources"
      [("group_version", groupVersion)] v
    rw [hsteps]
    rcases takes_getResources serve (.groupResources groupVersion) rfl (v.logged _) with
      ⟨list, u, requests, hlist⟩ | ⟨e, u, requests, hlist⟩
    · refine ⟨u, _, _, _, hlog.bind (hlist.bind (.pure [_] u)), by simp, ?_⟩
      rintro lists ⟨⟩
      exact .cons (keptAs_namespacedOnly list) .nil
    · refine ⟨u, _, _, _, hlog.bind (hlist.bind_of_failed _ []), by simp, ?_⟩
      rintro lists ⟨⟩

lemma takes_getGroups (serve : Server τ) (groups : List ApiGroup) (v : World (Link τ)) :
    ∃ v' answers requests result,
      Takes serve ((groups.map ApiGroup.asked?).mapM (getGroup serve)) v v' (groupSteps groups)
        answers requests result ∧
        (∀ answer ∈ answers, ∃ list, answer = .resources list) ∧
        ∀ lists, result = .ok lists →
          List.Forall₂ ResourceList.KeptAs (answers.filterMap CrawlAnswer.list?) lists.flatten := by
  induction groups generalizing v with
  | nil =>
    refine ⟨v, _, _, _, .pure [] v, by simp, ?_⟩
    rintro lists ⟨⟩
    exact .nil
  | cons g groups ih =>
    simp only [groupSteps_cons g groups, List.map_cons, List.mapM_cons, bind_pure_comp]
    obtain ⟨u, answers, requests, first, hfirst, hresources, hkept⟩ := takes_getGroup serve g v
    cases first with
    | error e =>
      refine ⟨u, answers, requests, _, hfirst.bind_of_failed _ _, hresources, ?_⟩
      rintro lists ⟨⟩
    | ok lists =>
      obtain ⟨u', answers', requests', rest, hrest, hresources', hkept'⟩ := ih u
      have hall : ∀ answer ∈ answers ++ answers', ∃ list, answer = .resources list := by
        intro answer hanswer
        exact (List.mem_append.mp hanswer).elim (hresources answer) (hresources' answer)
      cases rest with
      | error e =>
        refine ⟨u', _, _, _, hfirst.bind (hrest.map_of_failed _), hall, ?_⟩
        rintro _ ⟨⟩
      | ok named =>
        refine ⟨u', _, _, _, hfirst.bind (hrest.map _), hall, ?_⟩
        rintro _ ⟨⟩
        rw [List.filterMap_append, List.flatten_cons]
        exact List.rel_append (hkept _ rfl) (hkept' _ rfl)

lemma takes_getCatalog (serve : Server τ) (v : World (Link τ)) :
    ∃ core groups v' answers requests result,
      Takes serve (getCatalog serve) v v' (crawlPlan core groups) answers requests result ∧
        (∀ answer ∈ answers, answer.Fits core groups) ∧
        ∀ catalog, result = .ok catalog →
          List.Forall₂ ResourceList.KeptAs (answers.filterMap CrawlAnswer.list?) catalog := by
  have hgroups : get serve .unaddressable "/apis" groupVersions? =
      List.map ApiGroup.asked? <$> get serve .unaddressable CrawlStep.groups.address
        ApiGroup.listOfJson? := by
    rw [← get_map, ← funext groupVersions?_eq]
    rfl
  unfold getCatalog crawlPlan
  rw [hgroups]
  simp only [bind_map_left, bind_pure_comp]
  obtain ⟨core, u, answers, requests, first, hcore, hfits, hkept⟩ := takes_getCore serve v
  cases first with
  | error e =>
    refine ⟨core, [], u, _, _, _, hcore.bind_of_failed _ _, hfits [], ?_⟩
    rintro catalog ⟨⟩
  | ok lists =>
    rcases takes_get serve .groups .groups rfl u with
      ⟨groups, u', requests', hlisted⟩ | ⟨e, u', requests', hlisted⟩
    · obtain ⟨u'', answers'', requests'', rest, hrest, hresources, hkept'⟩ :=
        takes_getGroups serve groups u'
      have hall : ∀ answer ∈ answers ++ (.groups groups :: answers''),
          answer.Fits core groups := by
        intro answer hanswer
        simp only [List.mem_append, List.mem_cons] at hanswer
        rcases hanswer with hanswer | rfl | hanswer
        · exact hfits groups answer hanswer
        · rfl
        · obtain ⟨list, rfl⟩ := hresources answer hanswer
          trivial
      cases rest with
      | error e =>
        refine ⟨core, groups, u'', _, _, _, hcore.bind (hlisted.bind (hrest.map_of_failed _)),
          hall, ?_⟩
        rintro catalog ⟨⟩
      | ok named =>
        refine ⟨core, groups, u'', _, _, _, hcore.bind (hlisted.bind (hrest.map _)), hall, ?_⟩
        rintro catalog ⟨⟩
        rw [List.filterMap_append]
        exact List.rel_append (hkept _ rfl) (hkept' _ rfl)
    · refine ⟨core, [], u', _, _, _, hcore.bind (hlisted.bind_of_failed _ (groupSteps [])), ?_, ?_⟩
      · simpa using hfits []
      · rintro catalog ⟨⟩

/-- A catalog query follows its plan to the end or to the first step that fails. Each document is
read as what it lists, and the catalog has what is kept of each list in turn; a failure is the one
of its step, and comes without a catalog. -/
theorem catalog_follows_plan (serve : Server τ) (v : World (Link τ)) :
    ∃ core groups answers requests failure,
      Follows serve v.remote.server (crawlPlan core groups) answers requests failure
        ((ofServer serve).catalog v).2.remote.server ∧
      (∀ (step : CrawlStep) document answer,
        step.read? document = some answer ↔ step.Says document answer) ∧
      (∀ answer ∈ answers, answer.Fits core groups) ∧
      ((ofServer serve).catalog v).2.remote.requests = v.remote.requests ++ requests ∧
      (∃ sent rest, crawlPlan core groups = sent ++ rest ∧
        List.Forall₂ CrawlStep.Sends sent requests ∧ (failure = none → rest = [])) ∧
      (∀ e, failure = some e → ((ofServer serve).catalog v).1 = .error e) ∧
      (failure = none → ∃ catalog, ((ofServer serve).catalog v).1 = .ok catalog ∧
        List.Forall₂ ResourceList.KeptAs (answers.filterMap CrawlAnswer.list?) catalog) := by
  obtain ⟨core, groups, v', answers, requests, result, hrun, hfits, hkept⟩ :=
    takes_getCatalog serve v
  have hcatalog : (ofServer serve).catalog v = (result, v') := hrun.ran
  rw [hcatalog]
  refine ⟨core, groups, answers, requests, failure? result, hrun.followed,
    fun _ _ _ => CrawlStep.read?_eq_some_iff, hfits, hrun.requests, hrun.followed.exists_sends,
    ?_, ?_⟩
  · intro e he
    cases result with
    | error e' => exact congrArg Except.error (Option.some.inj he)
    | ok catalog => cases he
  · intro he
    cases result with
    | error e => cases he
    | ok catalog => exact ⟨catalog, rfl, hkept catalog rfl⟩

end WorkloadScaling
