import Mathlib
import WorkloadScaling.Proofs.RecordedCalls
import WorkloadScaling.Proofs.ResolvedKind

/-!
# Histories of a client

A client is used again and again, while the cluster behind it changes as it likes. The size that
the client remembers is the last one it read with success, and it plays no part in any answer.
-/
namespace WorkloadScaling

namespace Client

/-- An operation is asked of the client itself, or of what it is to an autoscaler. -/
inductive Door where
  | client
  | scaling
  deriving DecidableEq, Repr

inductive Operation where
  | readSize (door : Door)
  | update (door : Door) (resources : Resources)
  | preview (resources : Resources)
  | target

inductive Reply where
  | size (result : Except Failure ClusterSize)
  | updated (result : Except Failure Unit)
  | document (document : Json)
  | target (t : Target)

structure Event where
  operation : Operation
  calls : List Call
  reply : Reply

def Event.read? : Event → Option ClusterSize
  | ⟨.readSize _, _, .size (.ok size)⟩ => some size
  | _ => none

def lastRead? (events : List Event) : Option ClusterSize :=
  events.reverse.findSome? Event.read?

variable {σ : Type}

def remembering (c : Client) : Except Failure ClusterSize → Client
  | .ok size => { c with lastSize := some size }
  | .error _ => c

def perform (api : ControlPlane σ) (c : Client) : Operation → Run σ (Reply × Client)
  | .readSize .client => (fun (r, d) => (.size r, d)) <$> c.readSize api
  | .readSize .scaling => (fun (r, d) => (.size r, d)) <$> (scaling api).readSize c
  | .update .client resources => (fun r => (.updated r, c)) <$> c.update api resources
  | .update .scaling resources => (fun r => (.updated r, c)) <$> (scaling api).update c resources
  | .preview resources => pure (.document (c.preview resources), c)
  | .target => pure (.target c.target, c)

lemma perform_readSize (api : ControlPlane σ) (c : Client) (door : Door) (v : World σ) :
    c.perform api (.readSize door) v =
      ((.size (c.readSize api v).1.1, (c.readSize api v).1.2), (c.readSize api v).2) := by
  cases door <;> rfl

lemma perform_update (api : ControlPlane σ) (c : Client) (door : Door) (resources : Resources)
    (v : World σ) :
    c.perform api (.update door resources) v =
      ((.updated ((api.update c.target resources).run v).1, c),
        ((api.update c.target resources).run v).2) := by
  cases door <;> rfl

structure Performs (api : ControlPlane σ) (c : Client) (event : Event) (v : World (Recorded σ))
    (d : Client) : Prop where
  replied : (c.perform api.recorded event.operation v).1 = (event.reply, d)
  called : (c.perform api.recorded event.operation v).2.calls = v.calls ++ event.calls

/-- What has been done with a client. Each operation finds a world of its own, so the cluster may
change in any way between them. -/
inductive History (api : ControlPlane σ) (c : Client) : List Event → Client → Prop
  | start : History api c [] c
  | step {events : List Event} {event : Event} {d e : Client} {v : World (Recorded σ)}
      (before : History api c events d) (performed : d.Performs api event v e) :
      History api c (events ++ [event]) e

end Client

def ClusterSize.ofAnswer : Except RemoteFailure (List Node) → Except Failure ClusterSize
  | .ok nodes => ofNodes nodes
  | .error e => .error (.listNodes e)

variable {σ : Type} {api : ControlPlane σ}

lemma ControlPlane.readSize_apply (api : ControlPlane σ) (v : World σ) :
    (api.readSize.run v).1 = ClusterSize.ofAnswer (api.nodes v).1 ∧
      (api.readSize.run v).2.remote = (api.nodes v).2.remote := by
  simp only [readSize, Attempt.run_bind, Attempt.run_call]
  rcases api.nodes v with ⟨e | nodes, u⟩
  · exact ⟨rfl, rfl⟩
  · simp only [Except.mapError, ClusterSize.ofAnswer, Attempt.pure?]
    cases ClusterSize.ofNodes nodes with
    | error e => exact ⟨rfl, rfl⟩
    | ok size => exact ⟨rfl, rfl⟩

namespace Client

lemma readSize_recorded (api : ControlPlane σ) (c : Client) (v : World (Recorded σ)) :
    (c.readSize api.recorded v).1 = (ClusterSize.ofAnswer (api.nodes v.inner).1,
      c.remembering (ClusterSize.ofAnswer (api.nodes v.inner).1)) ∧
      (c.readSize api.recorded v).2.calls = v.calls ++ [.nodes] := by
  obtain ⟨hresult, hremote⟩ := api.recorded.readSize_apply v
  rw [ControlPlane.recorded_nodes_fst] at hresult
  have hcalls : ((api.recorded.readSize).run v).2.calls = v.calls ++ [.nodes] :=
    (congrArg Recorded.calls hremote).trans (api.recorded_nodes_calls v)
  rw [readSize_apply, ← hresult]
  rcases hrun : (api.recorded.readSize).run v with ⟨_ | _, _⟩
  · rw [hrun] at hcalls
    exact ⟨rfl, hcalls⟩
  · rw [hrun] at hcalls
    exact ⟨rfl, hcalls⟩

variable {c d : Client} {event : Event} {v : World (Recorded σ)}

lemma performs_readSize_iff {door : Door} {calls : List Call} {reply : Reply} :
    c.Performs api ⟨.readSize door, calls, reply⟩ v d ↔
      calls = [.nodes] ∧ reply = .size (ClusterSize.ofAnswer (api.nodes v.inner).1) ∧
        d = c.remembering (ClusterSize.ofAnswer (api.nodes v.inner).1) := by
  obtain ⟨hresult, hcalls⟩ := readSize_recorded api c v
  have hperform := perform_readSize api.recorded c door v
  rw [hresult] at hperform
  constructor
  · rintro ⟨hreplied, hcalled⟩
    rw [hperform] at hreplied hcalled
    obtain ⟨rfl, rfl⟩ := Prod.mk.inj hreplied
    exact ⟨List.append_cancel_left (hcalled.symm.trans hcalls), rfl, rfl⟩
  · rintro ⟨rfl, rfl, rfl⟩
    exact ⟨congrArg Prod.fst hperform, (congrArg (·.2.calls) hperform).trans hcalls⟩

lemma Performs.eq_of_other (h : c.Performs api event v d)
    (hother : ∀ door, event.operation ≠ .readSize door) : d = c := by
  have hreplied := congrArg Prod.snd h.replied
  cases hop : event.operation with
  | readSize door => exact absurd hop (hother door)
  | update door resources =>
    rw [hop] at hreplied
    cases door <;> exact hreplied.symm
  | preview resources =>
    rw [hop] at hreplied
    exact hreplied.symm
  | target =>
    rw [hop] at hreplied
    exact hreplied.symm

lemma Performs.after (h : c.Performs api event v d) :
    d = (event.read?.map fun size => { c with lastSize := some size }).getD c := by
  obtain ⟨operation, calls, reply⟩ := event
  cases operation with
  | readSize door =>
    obtain ⟨-, rfl, rfl⟩ := performs_readSize_iff.mp h
    cases ClusterSize.ofAnswer (api.nodes v.inner).1 <;> rfl
  | update | preview | target => exact h.eq_of_other (fun _ hop => Operation.noConfusion hop)

lemma Performs.eq_of_unread (h : c.Performs api event v d) (hread : event.read? = none) :
    d = c := by
  rw [h.after, hread]
  rfl

lemma Performs.lastSize_eq (h : c.Performs api event v d) :
    d.lastSize = event.read?.or c.lastSize := by
  rw [h.after]
  cases event.read? <;> rfl

lemma lastRead?_concat (events : List Event) (event : Event) :
    lastRead? (events ++ [event]) = event.read?.or (lastRead? events) := by
  cases hread : event.read? <;> simp [lastRead?, hread]

/-- A client remembers the last size that was read with success, if there is one. -/
lemma History.lastSize_eq {events : List Event} (h : History api c events d) :
    d.lastSize = (lastRead? events).or c.lastSize := by
  induction h with
  | start => rfl
  | step _ performed ih => rw [performed.lastSize_eq, lastRead?_concat, ih, Option.or_assoc]

lemma History.cut {past rest : List Event} (h : History api c (past ++ rest) d) :
    ∃ e, History api c past e ∧ History api e rest d := by
  generalize hevents : past ++ rest = events at h
  induction h generalizing rest with
  | start =>
    obtain ⟨rfl, rfl⟩ := List.append_eq_nil_iff.mp hevents
    exact ⟨c, .start, .start⟩
  | step before performed ih =>
    -- The last event is the end of what follows the cut, unless nothing follows it.
    rcases rest.eq_nil_or_concat with rfl | ⟨rest, last, rfl⟩
    · rw [List.append_nil] at hevents
      subst hevents
      exact ⟨_, .step before performed, .start⟩
    · rw [List.concat_eq_append, ← List.append_assoc] at hevents
      obtain ⟨hpast, hlast⟩ := List.append_inj' hevents rfl
      cases hlast
      obtain ⟨e, hbefore, hafter⟩ := ih hpast
      exact ⟨e, hbefore, List.concat_eq_append ▸ .step hafter performed⟩

/-- A client that was built remembers the last size that was read with success, however the
cluster changes between the operations, and no operation answers from what is remembered. -/
theorem connect_lastSize {asked nspace : String} {w w' : World σ} {events : List Event}
    (hconnect : (connect api asked nspace).run w = (.ok c, w'))
    (hhistory : History api c events d) :
    d.lastSize = lastRead? events ∧
    (∀ past rest, events = past ++ rest → ∃ e, History api c past e ∧ History api e rest d ∧
      e.lastSize = lastRead? past) ∧
    (∀ door calls reply (v : World (Recorded σ)) e,
      d.Performs api ⟨.readSize door, calls, reply⟩ v e ↔
        calls = [.nodes] ∧ reply = .size (ClusterSize.ofAnswer (api.nodes v.inner).1) ∧
          e = d.remembering (ClusterSize.ofAnswer (api.nodes v.inner).1)) ∧
    (∀ event (v : World (Recorded σ)) e,
      d.Performs api event v e → event.read? = none → e = d) := by
  have hstart : c.lastSize = none := by
    obtain ⟨_, _, _, _, _, _, _, _, _, _, rfl⟩ := connect_eq_ok hconnect
    rfl
  have hlast : ∀ {past e}, History api c past e → e.lastSize = lastRead? past := by
    intro past e h
    rw [h.lastSize_eq, hstart, Option.or_none]
  refine ⟨hlast hhistory, ?_, fun _ _ _ _ _ => performs_readSize_iff,
    fun _ _ _ h => h.eq_of_unread⟩
  rintro past rest rfl
  obtain ⟨e, hpast, hrest⟩ := hhistory.cut
  exact ⟨e, hpast, hrest, hlast hpast⟩

/-- A size that was read, and is kept through a reading that fails. -/
theorem connect_lastSize_kept :
    ∃ c w' d, (connect Script.controlPlane ("deployment" ++ "/" ++ "web") "ns1").run
      ⟨deploymentsAs "Deployment", []⟩ = (.ok c, w') ∧
      History Script.controlPlane c
        [⟨.readSize .client, [.nodes], .size (.ok ⟨1, 2⟩)⟩,
          ⟨.preview .empty, [], .document (c.preview .empty)⟩,
          ⟨.readSize .scaling, [.nodes],
            .size (.error (.listNodes (Script.unavailable "nodes")))⟩] d ∧
      d.lastSize = some ⟨1, 2⟩ := by
  obtain ⟨w', hconnect⟩ := connect_deploymentsAs "Deployment"
  let c : Client := ⟨⟨"Deployment", "apps/v1", "web", "ns1"⟩, none⟩
  let d : Client := ⟨c.target, some ⟨1, 2⟩⟩
  let answering : World (Recorded Script) := ⟨⟨⟨[], [⟨some "n1", some "2"⟩], []⟩, []⟩, []⟩
  let failing : World (Recorded Script) := ⟨⟨⟨[], [], ["nodes"]⟩, []⟩, []⟩
  have hanswered : ClusterSize.ofAnswer (Script.controlPlane.nodes answering.inner).1 =
      .ok ⟨1, 2⟩ := by decide +kernel
  have hfailed : ClusterSize.ofAnswer (Script.controlPlane.nodes failing.inner).1 =
      .error (.listNodes (Script.unavailable "nodes")) := by decide +kernel
  have hread : c.Performs Script.controlPlane
      ⟨.readSize .client, [.nodes], .size (.ok ⟨1, 2⟩)⟩ answering d :=
    performs_readSize_iff.mpr ⟨rfl, hanswered ▸ rfl, hanswered ▸ rfl⟩
  have hpreview : d.Performs Script.controlPlane
      ⟨.preview .empty, [], .document (c.preview .empty)⟩ answering d :=
    ⟨rfl, (List.append_nil _).symm⟩
  have hunread : d.Performs Script.controlPlane
      ⟨.readSize .scaling, [.nodes], .size (.error (.listNodes (Script.unavailable "nodes")))⟩
      failing d :=
    performs_readSize_iff.mpr ⟨rfl, hfailed ▸ rfl, hfailed ▸ rfl⟩
  have hhistory := ((History.start.step hread).step hpreview).step hunread
  exact ⟨c, w', d, hconnect, hhistory, (connect_lastSize hconnect hhistory).1⟩

end Client

end WorkloadScaling
