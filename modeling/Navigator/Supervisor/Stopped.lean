/-
Stopped means gone.

A launch is recorded as stopped after its whole process group was seen to be gone, after a
cleanup, or by the call that has reserved it and spawned nothing.  A launch that fails after
its process was spawned takes the exit of the leader for that of the group, and does not look
at the answer of its own cleanup.

* **`stopped_means_gone`** — if no such cleanup fails, what is recorded as stopped is gone;
* **`failed_cleanup_is_ignored`** — otherwise it need not be.
-/
import Navigator.Supervisor.Books

namespace Navigator

open Prog

variable {k : LaunchAttemptId} {e : SupervisorCall}

namespace Supervision

variable {env : Env} {w w' : World} {h : History}

/-- The processes of what is recorded as stopped are gone. -/
def StoppedGone (w : World) : Prop :=
  ∀ k l, w.store.launches.find? k = some l → l.state = .stopped → k ∈ w.spawned → k ∈ w.gone

/-- An attempt is reserved, and nothing was done with it yet. -/
structure Pending (k : LaunchAttemptId) (h : History) : Prop where
  reserved : Did (reserves k) h
  unspent : ¬ Did (spawns k) h
  unmoved : ¬ Did (moves k) h

/-- The cleanup that a call makes after a process it has spawned does not fail. -/
def CleansUp (h : History) : (e : SupervisorCall) → e.Answer → Prop
  | .cleanup k, r => Did (spawns k) h → r = .ok ()
  | _, _ => True

instance : (e : SupervisorCall) → (r : e.Answer) → Decidable (CleansUp h e r)
  | .cleanup k, r => inferInstanceAs (Decidable (Did (spawns k) h → r = .ok ()))
  | .nextCredential, _ | .prepareLaunch _, _ | .attachLaunch _, _ | .transitionLaunch _, _
  | .transitionLaunchBy .., _ | .loadLaunch _, _ | .validateLaunchAuthority .., _ | .hit _, _
  | .spawn .., _ | .spawned _, _ | .inspect .., _ | .signal .., _ | .waitForExit .., _
  | .revokeOwnership _, _ | .now _, _ | .deadline, _ | .sleep, _ | .binding .., _ | .bind .., _
  | .unbind .., _ | .closeFence, _ | .openDriver .., _ | .unfinished, _ => .isTrue trivial

/-- A call relies on its reservation not having been closed, and on its cleanups. -/
structure Relies (w : World) (h : History) : Prop where
  pending : ∀ {k l}, Pending k h → w.store.launches.find? k = some l → l.state ≠ .stopped
  cleaned : ∀ {k r before}, (⟨.cleanup k, r⟩ :: before) <:+ h → Did (spawns k) before → r = .ok ()

theorem Pending.of_cons {a : SupervisorAct} (hpending : Pending k (a :: h))
    (ha : reserves k a ≠ true) : Pending k h where
  reserved := (did_cons.mp hpending.reserved).resolve_left ha
  unspent hdid := hpending.unspent hdid.cons
  unmoved hdid := hpending.unmoved hdid.cons

/-- Whoever may record an attempt as stopped knows that its processes are gone, or has it
reserved and has spawned none. -/
theorem MayStop.gone (hmay : MayStop k h) (hrecalls : Recalls w h) (hrelies : Relies w h) :
    k ∈ w.gone ∨ Did (reserves k) h ∧ ¬ Did (spawns k) h := by
  rcases hmay with (hend | hclean) | ⟨r, before, hsuffix, hexit, hspawns⟩ | hunspent
  · exact .inl (hrecalls.ended hend)
  · exact .inl (hrecalls.cleaned hclean)
  · have hr : r = .ok () := hrelies.cleaned hsuffix hspawns
    subst hr
    exact .inl (hrecalls.cleaned ⟨before, hsuffix, hexit⟩)
  · exact .inr hunspent

variable {r : e.Answer}

/-- A launch becomes stopped by a transition whose caller may make it. -/
theorem becomes_stopped (hw : Consistent env w) (hwarrant : Warrant h e)
    (hchange : Change env w ⟨e, r⟩ w') {l : LaunchSnapshot}
    (hl : w'.store.launches.find? k = some l) (hstopped : l.state = .stopped) :
    w.store.launches.find? k = some l ∨
      MayStop k h ∧ (moves k ⟨e, r⟩ = true ∨ Ended k h) := by
  cases hchange with
  | @stored _ c hcommand t =>
    cases exec_launchBecomes hw.reachable.sound t c hl with
    | kept found => exact .inl found
    | prepared => cases hstopped
    | attached _ _ _ state => cases state.symm.trans hstopped
    | @moved c _ _ key _ _ _ state =>
      have htarget : c.target = .stopped := state.symm.trans hstopped
      subst key
      cases e with
      | transitionLaunch c' =>
        cases hcommand
        exact .inr ⟨hwarrant.2 htarget, .inl (decide_eq_true rfl)⟩
      | transitionLaunchBy deadline c' =>
        cases hcommand
        exact .inr ⟨.inl (hwarrant.2 htarget), .inr (hwarrant.2 htarget)⟩
      | _ => cases hcommand
  | _ => exact .inl hl

/-- What was seen to be gone has been spawned. -/
theorem Ended.spawned (hended : Ended k h) (hw : Consistent env w) (hrecalls : Recalls w h) :
    k ∈ w.spawned :=
  hw.exited (hw.gone (hended.elim hrecalls.ended hrecalls.cleaned))

section

variable (hw : Consistent env w)
include hw

/-- A reservation that another call holds is not closed. -/
theorem Relies.others {h' : History} (hrecalls : Recalls w h)
    (hrelies : Relies w h) (hother : Recalls w h') (hrelies' : Relies w h')
    (hapart : Compatible h h') (hwarrant : Warrant h e) (hchange : Change env w ⟨e, r⟩ w') :
    Relies w' h' := by
  refine ⟨fun hpending hl hstopped => ?_, hrelies'.cleaned⟩
  rcases becomes_stopped hw hwarrant hchange hl hstopped with hold | ⟨hmay, -⟩
  · exact hrelies'.pending hpending hold hstopped
  · rcases hmay.gone hrecalls hrelies with hgone | hunspent
    · exact hother.unspent hpending.reserved hpending.unspent (hw.exited (hw.gone hgone))
    · exact hapart _ hunspent.1 hpending.reserved

theorem Relies.own (hrecalls : Recalls w h) (hrelies : Relies w h)
    (hwarrant : Warrant h e) (hcleans : CleansUp h e r) (hchange : Change env w ⟨e, r⟩ w')
    (htruth : Truth w w' ⟨e, r⟩) : Relies w' (⟨e, r⟩ :: h) := by
  refine ⟨fun {k l} hpending hl hstopped => ?_, fun {k r' before} hsuffix hspawns => ?_⟩
  · rcases becomes_stopped hw hwarrant hchange hl hstopped with hold | ⟨-, hmoves | hended⟩
    · by_cases hreserves : reserves k ⟨e, r⟩ = true
      · -- it was not there when it was reserved
        cases (htruth.of_reserves hreserves).1.symm.trans hold
      · exact hrelies.pending (hpending.of_cons hreserves) hold hstopped
    · exact hpending.unmoved (did_head hmoves)
    · -- what is gone was spawned, and what is pending was not
      have hunspent : ¬ Did (spawns k) h := fun hdid => hpending.unspent hdid.cons
      by_cases hreserves : Did (reserves k) h
      · exact hrecalls.unspent hreserves hunspent (hended.spawned hw hrecalls)
      have hsome := hw.prepared (hended.spawned hw hrecalls)
      have hnew := (did_cons.mp hpending.reserved).resolve_right hreserves
      rw [(htruth.of_reserves hnew).1] at hsome
      cases hsome
  · rcases List.suffix_cons_iff.mp hsuffix with heq | hsuffix
    · obtain ⟨hact, rfl⟩ := List.cons.inj heq
      obtain ⟨rfl, hr⟩ := Sigma.mk.inj_iff.mp hact
      cases hr
      exact hcleans hspawns
    · exact hrelies.cleaned hsuffix hspawns

theorem StoppedGone.answer (hgone : StoppedGone w) (hrecalls : Recalls w h)
    (hrelies : Relies w h) (hwarrant : Warrant h e) (hchange : Change env w ⟨e, r⟩ w') :
    StoppedGone w' := by
  intro k l hl hstopped hspawned
  have hgrows := hchange.grows hw.reachable
  rcases becomes_stopped hw hwarrant hchange hl hstopped with hold | ⟨hmay, hhow⟩
  · by_cases hbefore : k ∈ w.spawned
    · exact hgrows.gone (hgone k l hold hstopped hbefore)
    -- it is being spawned, by the call that has it reserved
    by_cases hspawns : spawns k ⟨e, r⟩ = true
    · cases e with
      | spawn plan credential =>
        obtain rfl := of_decide_eq_true hspawns
        exact absurd hstopped
          (hrelies.pending ⟨hwarrant.2.1, hwarrant.2.2.1, hwarrant.2.2.2⟩ hold)
      | _ => cases hspawns
    · exact absurd hspawned (hchange.not_spawned hbefore hspawns)
  · rcases hmay.gone hrecalls hrelies with hk | hunspent
    · exact hgrows.gone hk
    have hnot := hrecalls.unspent hunspent.1 hunspent.2
    refine absurd hspawned (hchange.not_spawned hnot fun hspawns => ?_)
    -- a call that moves a launch spawns nothing
    cases e with
    | spawn plan credential =>
      rcases hhow with hmoves | hended
      · cases hmoves
      · exact hnot (hended.spawned hw hrecalls)
    | _ => cases hspawns

theorem StoppedGone.drift (hgone : StoppedGone w) (hdrift : Drift env w w') : StoppedGone w' := by
  intro k l hl hstopped hspawned
  rw [hdrift.launches hw.reachable] at hl
  rw [hdrift.frame.1] at hspawned
  exact (hdrift.grows hw.reachable).gone (hgone k l hl hstopped hspawned)

end

theorem sound_stopped : (pool env).Sound Warrant (fun _ h e r => CleansUp h e r) Compatible
    (fun w => Consistent env w ∧ StoppedGone w) fun w h => Recalls w h ∧ Relies w h where
  fresh w _ := ⟨recalls_nil w, fun hpending => absurd hpending.reserved not_did_nil,
    fun hsuffix => absurd (List.suffix_nil.mp hsuffix) nofun⟩
  outside x w hw := by
    obtain ⟨hbooks, hrecalls⟩ := sound_books.outside x w hw.1
    refine ⟨⟨hbooks, hw.2.drift hw.1 (outside_drift x)⟩, fun h hh => ⟨hrecalls h hh.1, ?_⟩⟩
    refine ⟨fun hpending hl => hh.2.pending hpending ?_, hh.2.cleaned⟩
    rw [← (outside_drift x).launches hw.1.reachable]
    exact hl
  call {w input e r w' h} hw hh hwarrant hcleans hanswer := by
    obtain ⟨hbooks, hrecalls, hothers⟩ := sound_books.call hw.1 hh.1 hwarrant trivial hanswer
    have hchange := (answer_spec hanswer).1
    refine ⟨⟨hbooks, hw.2.answer hw.1 hh.1 hh.2 hwarrant hchange⟩,
      ⟨hrecalls, hh.2.own hw.1 hh.1 hwarrant hcleans hchange (answer_spec hanswer).2⟩, ?_⟩
    exact fun h' hh' hapart => ⟨hothers h' hh'.1 hapart,
      hh.2.others hw.1 hh.1 hh'.1 hh'.2 hapart hwarrant hchange⟩

end Supervision

open Supervision

/-- **Stopped means gone**: in every run in which a call that has spawned a process does not
fail to clean up after it, an attempt that is recorded as stopped has no process, or neither the
leader nor another member of its group is left. -/
theorem stopped_means_gone (env : Env) (events : List Event)
    (hcleans : Tally.Along (pool env).step ((pool env).Admits fun _ h e r => CleansUp h e r)
      events start) :
    ∀ l ∈ ((pool env).run events start).world.store.launches, l.state = .stopped →
      l.attemptId ∉ ((pool env).run events start).world.spawned ∨
        l.attemptId ∈ ((pool env).run events start).world.gone := by
  have hstart : start.Holds Warrant (fun _ => Calm)
      (fun w => Consistent env w ∧ StoppedGone w) fun w h => Recalls w h ∧ Relies w h :=
    ⟨⟨holds_start.world, nofun⟩, nofun⟩
  have hworld := (hstart.run (disciplined env) sound_stopped apart_run events hcleans).world
  intro l hl hstopped
  by_cases hspawned : l.attemptId ∈ ((pool env).run events start).world.spawned
  · exact .inr (hworld.2 _ l (Table.find?_of_mem hl :) hstopped hspawned)
  · exact .inl hspawned

namespace Sample

/-- The launch cannot be attached, and its leader is found to have exited; the launch is
cleaned up after and closed. -/
def closing (cleanup : Input) : List Event :=
  [.resume 0 .go, .resume 0 (.fails .unavailable none), .resume 0 (.instant 0),
    .resume 0 (.observation .exited), .resume 0 cleanup, .resume 0 .go,
    .resume 0 (.answers (seconds 0)), .resume 0 (.answers (seconds 0)),
    .resume 0 (.answers (seconds 0))]

/-- Only the leader has exited, and the cleanup fails. -/
def leaderless : List Event :=
  spawning ++ [.outside (.exits launch)] ++ closing (.error .process)

/-- Nothing is left of the group, and the cleanup succeeds. -/
def groupless : List Event :=
  spawning ++ [.outside (.vanishes launch)] ++ closing .go

end Sample

open Sample

/-- A launch that fails is recorded as stopped although its cleanup has failed, and a process
of its group is still there. -/
theorem failed_cleanup_is_ignored :
    (((pool world).run leaderless start).world.store.launches.find? launch).map
        LaunchSnapshot.state = some .stopped ∧
      launch ∈ ((pool world).run leaderless start).world.spawned ∧
      launch ∉ ((pool world).run leaderless start).world.gone := by
  decide +kernel

theorem stopped_means_gone_groupless :
    (((pool world).run groupless start).world.store.launches.find? launch).map
        LaunchSnapshot.state = some .stopped ∧
      Tally.Along (pool world).step ((pool world).Admits fun _ h e r => CleansUp h e r)
        groupless start ∧
      ∀ l ∈ ((pool world).run groupless start).world.store.launches, l.state = .stopped →
        l.attemptId ∉ ((pool world).run groupless start).world.spawned ∨
          l.attemptId ∈ ((pool world).run groupless start).world.gone := by
  have hcleans : Tally.Along (pool world).step
      ((pool world).Admits fun _ h e r => CleansUp h e r) groupless start := by
    decide +kernel
  exact ⟨by decide +kernel, hcleans, stopped_means_gone world groupless hcleans⟩

end Navigator
