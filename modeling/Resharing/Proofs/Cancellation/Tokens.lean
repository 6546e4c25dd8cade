import Mathlib.Data.List.Induction
import Resharing.Proofs.Cancellation.Watches

/-!
# What tokens see of their owner

An owner and those who hold its tokens act in any order, and waits for the cancellation are under
way meanwhile. Time does not pass while a wait has something to look at.

A token is the owner's if it was made with the owner or by it, or from a token of the owner. Such
a token sees the cancellation exactly from then on when the owner has cancelled, and the waits on
it are over at that instant. All other tokens, and those of an owner that leaves without
cancelling, never see anything.

## Main definitions

* `Cancellation.Scene`, `Cancellation.Step`, `Cancellation.Runs`: owner, tokens and waits, and
  what can happen next
* `Cancellation.OfOwner`, `Cancellation.cancelledAt`: what has been done with the tokens, and when
  the owner has cancelled
* `Cancellation.Watch.Told`: a wait goes by the first cancellation

## Main results

* `Cancellation.Faithful.step`, `Cancellation.Runs.faithful`: what every scene keeps
* `Cancellation.tokens_tell`: what tokens and waits tell
-/

namespace Resharing.Cancellation

/-- An owner with the tokens and the waits at an instant. -/
structure Scene where
  now : Nat
  state : Cancellation
  watches : List Watch

/-- What can be done to an owner and to tokens. -/
inductive Act where
  | cancel
  | leave
  | token
  | clone (source : Nat)
  | never
  deriving DecidableEq

/-- What can happen next, and what is done to the owner and the tokens by it. -/
inductive Step : Scene → List (Nat × Act) → Scene → Prop
  | cancel {scene : Scene} {next : Cancellation} (able : scene.state.cancel = some next) :
      Step scene [(scene.now, .cancel)] { scene with state := next }
  | leave {scene : Scene} {next : Cancellation} (able : scene.state.leave = some next) :
      Step scene [(scene.now, .leave)] { scene with state := next }
  | token {scene : Scene} {next : Cancellation} (able : scene.state.token = some next) :
      Step scene [(scene.now, .token)] { scene with state := next }
  | clone {scene : Scene} {source : Nat} (known : source < scene.state.tokens.length) :
      Step scene [(scene.now, .clone source)] { scene with state := scene.state.clone source }
  | never {scene : Scene} :
      Step scene [(scene.now, .never)] { scene with state := scene.state.never }
  | wait {scene : Scene} {token : Nat} {limit : Option Nat}
      (known : token < scene.state.tokens.length) :
      Step scene [] { scene with
        watches := scene.watches ++ [.begin scene.state scene.now token limit] }
  | poll {scene : Scene} {before after : List Watch} {watch : Watch}
      (place : scene.watches = before ++ watch :: after) :
      Step scene [] { scene with
        watches := before ++ watch.poll scene.state scene.now :: after }
  /-- Time passes, but not while a wait has something to look at, nor beyond its limit. -/
  | pass {scene : Scene} {time : Nat} (later : scene.now < time)
      (idle : ∀ watch ∈ scene.watches, watch.IdleUntil scene.state time) :
      Step scene [] { scene with now := time }

/-- One thing after the other, with all that is done to the owner and the tokens. -/
inductive Runs (first : Scene) : List (Nat × Act) → Scene → Prop
  | start : Runs first [] first
  | step {acts more : List (Nat × Act)} {scene next : Scene} (earlier : Runs first acts scene)
      (step : Step scene more next) : Runs first (acts ++ more) next

/-- An owner with its first token, before anything has happened. -/
def Scene.start (now : Nat) : Scene := ⟨now, .start, []⟩

/-! ### What has been done -/

def Act.makesToken : Act → Bool
  | .cancel | .leave => false
  | .token | .clone _ | .never => true

/-- How many tokens there are; the first is made with the owner. -/
def made (acts : List (Nat × Act)) : Nat := 1 + acts.countP fun act => act.2.makesToken

/-- Which tokens are the owner's. -/
inductive OfOwner : List (Nat × Act) → Nat → Prop
  | first : OfOwner [] 0
  | kept {acts : List (Nat × Act)} {token : Nat} (earlier : OfOwner acts token)
      (act : Nat × Act) : OfOwner (acts ++ [act]) token
  | token {acts : List (Nat × Act)} (time : Nat) : OfOwner (acts ++ [(time, .token)]) (made acts)
  | clone {acts : List (Nat × Act)} {source : Nat} (earlier : OfOwner acts source) (time : Nat) :
      OfOwner (acts ++ [(time, .clone source)]) (made acts)

/-- When the owner has cancelled first, if it has. -/
def cancelledAt (acts : List (Nat × Act)) : Option Nat :=
  (acts.find? fun act => act.2 = .cancel).map (·.1)

variable {acts more : List (Nat × Act)} {time now token : Nat} {state next : Cancellation}
  {scene later : Scene} {watch : Watch}

theorem cancelledAt_append :
    cancelledAt (acts ++ more) = (cancelledAt acts).or (cancelledAt more) := by
  rw [cancelledAt, List.find?_append, Option.map_or]
  rfl

theorem isSome_cancelledAt : (cancelledAt acts).isSome = true ↔ ∃ time, (time, .cancel) ∈ acts := by
  simp [cancelledAt]

/-! ### The tokens of an owner -/

theorem made_concat (acts : List (Nat × Act)) (act : Nat × Act) :
    made (acts ++ [act]) = made acts + if act.2.makesToken then 1 else 0 := by
  rw [made, List.countP_append, List.countP_singleton, ← Nat.add_assoc, made]

/-- A token is the owner's if it was before, or if it has just been made by the owner or from one
of its tokens. -/
theorem ofOwner_concat {act : Nat × Act} : OfOwner (acts ++ [act]) token ↔
    OfOwner acts token ∨ token = made acts ∧
      (act.2 = .token ∨ ∃ source, act.2 = .clone source ∧ OfOwner acts source) := by
  constructor
  · intro own
    generalize whole : acts ++ [act] = all at own
    cases own with
    | first => simp at whole
    | kept earlier last =>
      obtain ⟨rfl, -⟩ := List.append_inj' whole rfl
      exact .inl earlier
    | token time =>
      obtain ⟨rfl, same⟩ := List.append_inj' whole rfl
      obtain rfl := List.singleton_inj.mp same
      exact .inr ⟨rfl, .inl rfl⟩
    | @clone _ source earlier time =>
      obtain ⟨rfl, same⟩ := List.append_inj' whole rfl
      obtain rfl := List.singleton_inj.mp same
      exact .inr ⟨rfl, .inr ⟨source, rfl, earlier⟩⟩
  · obtain ⟨time, act⟩ := act
    rintro (earlier | ⟨rfl, rfl | ⟨source, rfl, earlier⟩⟩)
    · exact .kept earlier _
    · exact .token time
    · exact .clone earlier time

theorem OfOwner.append (own : OfOwner acts token) (more : List (Nat × Act)) :
    OfOwner (acts ++ more) token := by
  induction more using List.reverseRecOn with
  | nil => rwa [List.append_nil]
  | append_singleton more act ih =>
    rw [← List.append_assoc]
    exact .kept ih act

/-- Whether a token observes the owner's switch. -/
def Observes (state : Cancellation) (token : Nat) : Prop := state.tokens.getD token false = true

theorem watched_of_observes (observes : state.Observes token) :
    state.watched token = state.switch :=
  if_pos observes

theorem watched_of_not_observes (other : ¬ state.Observes token) :
    state.watched token = .abandoned := if_neg other

/-- When a token has seen the cancellation first, if it has. -/
def seenBy (acts : List (Nat × Act)) (state : Cancellation) (token : Nat) : Option Nat :=
  if state.tokens.getD token false then cancelledAt acts else none

theorem seenBy_of_observes (observes : state.Observes token) :
    seenBy acts state token = cancelledAt acts := if_pos observes

theorem seenBy_of_not_observes (other : ¬ state.Observes token) :
    seenBy acts state token = none := if_neg other

theorem mem_seenBy_iff : time ∈ seenBy acts state token ↔
    state.Observes token ∧ cancelledAt acts = some time := by
  by_cases observes : state.Observes token
  · rw [seenBy_of_observes observes, and_iff_right observes]
    rfl
  · rw [seenBy_of_not_observes observes]
    simp [observes]

/-- The state of the tokens is what has been done, and every wait is what the first cancellation
of its token makes of it. -/
structure Faithful (acts : List (Nat × Act)) (scene : Scene) : Prop where
  made : scene.state.tokens.length = made acts
  observes : ∀ token, scene.state.Observes token ↔ OfOwner acts token
  owned : scene.state.switch.owned = true ↔ ∀ time, (time, Act.leave) ∉ acts
  dated : Dated scene.state.switch scene.now (cancelledAt acts)
  known : ∀ watch ∈ scene.watches, watch.token < scene.state.tokens.length
  sound : ∀ watch ∈ scene.watches,
    watch.Sound (scene.state.watched watch.token) scene.now (seenBy acts scene.state watch.token)

theorem Faithful.dated_watched (faithful : Faithful acts scene) (token : Nat) :
    Dated (scene.state.watched token) scene.now (seenBy acts scene.state token) := by
  by_cases observes : scene.state.Observes token
  · rw [watched_of_observes observes, seenBy_of_observes observes]
    exact faithful.dated
  · rw [watched_of_not_observes observes, seenBy_of_not_observes observes]
    exact ⟨by simp [Switch.abandoned], by simp⟩

theorem faithful_start (now : Nat) : Faithful [] (.start now) := by
  have first : ∀ token, OfOwner [] token ↔ token = 0 := by
    intro token
    constructor
    · intro own
      generalize empty : ([] : List (Nat × Act)) = acts at own
      cases own <;> simp at empty
      rfl
    · rintro rfl
      exact .first
  refine ⟨rfl, fun token => ?_, ?_, ⟨?_, ?_⟩, ?_, ?_⟩
  · rw [first]
    cases token <;> simp [Observes, Scene.start, Cancellation.start]
  · exact iff_of_true rfl fun _ => List.not_mem_nil
  · exact iff_of_false nofun nofun
  · exact nofun
  · exact nofun
  · exact nofun

/-! ### What can happen -/

theorem cancel_eq_some : state.cancel = some next ↔
    state.switch.owned = true ∧ { state with switch := state.switch.cancel } = next := by
  rw [cancel]
  split_ifs with owned <;> simp [owned]

theorem leave_eq_some : state.leave = some next ↔
    state.switch.owned = true ∧ { state with switch := state.switch.leave } = next := by
  rw [leave]
  split_ifs with owned <;> simp [owned]

theorem token_eq_some : state.token = some next ↔
    state.switch.owned = true ∧ { state with tokens := state.tokens ++ [true] } = next := by
  rw [Cancellation.token]
  split_ifs with owned <;> simp [owned]

/-- A token that is made changes nothing for the others. -/
theorem getD_append_of_lt {tokens : List Bool} (known : token < tokens.length) (own : Bool) :
    (tokens ++ [own]).getD token false = tokens.getD token false := by
  rw [List.getD_eq_getElem?_getD, List.getD_eq_getElem?_getD, List.getElem?_append_left known]

theorem observes_append {tokens : List Bool} {own : Bool} :
    (tokens ++ [own]).getD token false = true ↔
      tokens.getD token false = true ∨ token = tokens.length ∧ own = true := by
  rcases Nat.lt_trichotomy token tokens.length with before | rfl | behind
  · rw [getD_append_of_lt before]
    exact ⟨.inl, fun either => either.resolve_right fun new => absurd new.1 (Nat.ne_of_lt before)⟩
  · simp
  · have beyond : ∀ {others : List Bool}, others.length ≤ token → others.getD token false = false :=
      fun short => by rw [List.getD_eq_getElem?_getD, List.getElem?_eq_none short]; rfl
    have longer : (tokens ++ [own]).length ≤ token := by rwa [List.length_append]
    rw [beyond longer, beyond (Nat.le_of_lt behind)]
    exact iff_of_false nofun fun either => either.elim nofun fun new => Nat.ne_of_gt behind new.1

/-- A token that is made is the owner's or not, and all else stays as it was. -/
theorem Faithful.makes {act : Act} {own : Bool} (faithful : Faithful acts scene)
    (makes : act.makesToken = true) (lineage : own = true ↔
      act = .token ∨ ∃ source, act = .clone source ∧ OfOwner acts source) :
    Faithful (acts ++ [(scene.now, act)])
      { scene with state := { scene.state with tokens := scene.state.tokens ++ [own] } } := by
  obtain ⟨count, observes, owned, dated, known, sound⟩ := faithful
  have notCancel : act ≠ .cancel := by
    rintro rfl
    simp [Act.makesToken] at makes
  have notLeave : act ≠ .leave := by
    rintro rfl
    simp [Act.makesToken] at makes
  have sameTime : cancelledAt (acts ++ [(scene.now, act)]) = cancelledAt acts := by
    simp [cancelledAt, notCancel]
  refine ⟨?_, fun token => ?_, ?_, ?_, fun watch member => ?_, fun watch member => ?_⟩
  · rw [made_concat, if_pos makes, List.length_append, count]
    rfl
  · rw [ofOwner_concat, ← observes, ← lineage, ← count]
    exact observes_append
  · rw [owned]
    simp [notLeave.symm]
  · rw [sameTime]
    exact dated
  · exact Nat.lt_of_lt_of_le (known watch member) (by simp)
  · have same := getD_append_of_lt (known watch member) own
    unfold watched seenBy
    rw [same, sameTime]
    exact sound watch member

/-- What the owner does to its switch concerns its own tokens and no others. -/
theorem Faithful.turns {act : Act} {turned : Switch} (faithful : Faithful acts scene)
    (makes : act.makesToken = false)
    (owned : turned.owned = true ↔ ∀ time, (time, Act.leave) ∉ acts ++ [(scene.now, act)])
    (dated : Dated turned scene.now (cancelledAt (acts ++ [(scene.now, act)])))
    (sound : ∀ watch : Watch, watch.Sound scene.state.switch scene.now (cancelledAt acts) →
      watch.Sound turned scene.now (cancelledAt (acts ++ [(scene.now, act)]))) :
    Faithful (acts ++ [(scene.now, act)])
      { scene with state := { scene.state with switch := turned } } := by
  refine ⟨?_, fun token => ?_, owned, dated, faithful.known, fun watch member => ?_⟩
  · rw [made_concat, makes]
    exact faithful.made
  · have old := faithful.observes token
    rw [ofOwner_concat]
    constructor
    · exact fun observed => .inl (old.mp observed)
    · rintro (own | ⟨-, rfl | ⟨source, rfl, -⟩⟩)
      · exact old.mpr own
      · cases makes
      · cases makes
  · -- Only a wait on a token of the owner looks at the switch that is turned.
    have before := faithful.sound watch member
    by_cases observed : scene.state.tokens.getD watch.token false = true
    · simp only [watched, seenBy, observed, if_true] at before ⊢
      exact sound watch before
    · simp only [watched, seenBy, observed] at before ⊢
      exact before

theorem Faithful.cancel (faithful : Faithful acts scene) (able : scene.state.cancel = some next) :
    Faithful (acts ++ [(scene.now, .cancel)]) { scene with state := next } := by
  obtain ⟨here, rfl⟩ := cancel_eq_some.mp able
  have first : cancelledAt (acts ++ [(scene.now, .cancel)]) =
      (cancelledAt acts).or (some scene.now) := cancelledAt_append
  have stays : scene.state.switch.cancel.owned = true ↔
      ∀ time, (time, Act.leave) ∉ acts ++ [(scene.now, .cancel)] :=
    iff_of_true here (by simpa using faithful.owned.mp here)
  apply faithful.turns rfl stays
  · rw [first]
    exact faithful.dated.cancel
  · rw [first]
    exact fun watch sound => sound.cancel here

theorem Faithful.leave (faithful : Faithful acts scene) (able : scene.state.leave = some next) :
    Faithful (acts ++ [(scene.now, .leave)]) { scene with state := next } := by
  obtain ⟨-, rfl⟩ := leave_eq_some.mp able
  have same : cancelledAt (acts ++ [(scene.now, .leave)]) = cancelledAt acts := by
    simp [cancelledAt]
  have left : scene.state.switch.leave.owned = true ↔
      ∀ time, (time, Act.leave) ∉ acts ++ [(scene.now, .leave)] := by
    refine iff_of_false Bool.false_ne_true fun staying => ?_
    exact staying scene.now (List.mem_append_right _ List.mem_cons_self)
  apply faithful.turns rfl left
  · rw [same]
    exact ⟨faithful.dated.cancelled, faithful.dated.past⟩
  · rw [same]
    exact fun watch sound => sound.leave

/-- Whatever happens, a scene stays faithful to what has been done. -/
theorem Faithful.step (faithful : Faithful acts scene) (step : Step scene more later) :
    Faithful (acts ++ more) later := by
  cases step with
  | cancel able => exact faithful.cancel able
  | leave able => exact faithful.leave able
  | token able =>
    obtain ⟨-, rfl⟩ := token_eq_some.mp able
    exact faithful.makes rfl (by simp)
  | @clone source known =>
    refine faithful.makes rfl ((faithful.observes source).trans ?_)
    simp
  | never => exact faithful.makes rfl (by simp)
  | @wait token limit known =>
    rw [List.append_nil]
    refine ⟨faithful.made, faithful.observes, faithful.owned, faithful.dated, ?_, ?_⟩
    · exact List.forall_mem_append.mpr ⟨faithful.known, List.forall_mem_singleton.mpr known⟩
    · have begun := Watch.sound_begin (faithful.dated_watched token) limit
      exact List.forall_mem_append.mpr ⟨faithful.sound, List.forall_mem_singleton.mpr begun⟩
  | @poll before after watch place =>
    have member : watch ∈ scene.watches := by
      rw [place]
      exact List.mem_append_right _ List.mem_cons_self
    have token : (watch.poll scene.state scene.now).token = watch.token := by
      rw [watch.frame_poll]
    have looked := (faithful.sound watch member).poll (faithful.dated_watched watch.token)
    have others : ∀ other ∈ before ++ watch.poll scene.state scene.now :: after,
        other = watch.poll scene.state scene.now ∨ other ∈ scene.watches := by
      rw [place]
      simp only [List.mem_append, List.mem_cons]
      tauto
    rw [List.append_nil]
    refine ⟨faithful.made, faithful.observes, faithful.owned, faithful.dated,
      fun other inside => ?_, fun other inside => ?_⟩
    · rcases others other inside with rfl | old
      · exact token ▸ faithful.known watch member
      · exact faithful.known other old
    · rcases others other inside with rfl | old
      · rw [token]
        exact looked
      · exact faithful.sound other old
  | pass ahead idle =>
    have later := Nat.le_of_lt ahead
    rw [List.append_nil]
    refine ⟨faithful.made, faithful.observes, faithful.owned, ?_, faithful.known,
      fun watch member => ?_⟩
    · exact ⟨faithful.dated.cancelled,
        fun time first => Nat.le_trans (faithful.dated.past time first) later⟩
    · exact (faithful.sound watch member).pass (faithful.dated_watched watch.token) later
        (idle watch member)

/-- Every scene that an owner and its tokens come to is faithful to what has been done. -/
theorem Runs.faithful (run : Runs (.start now) acts scene) : Faithful acts scene := by
  induction run with
  | start => exact faithful_start now
  | step _ step ih => exact ih.step step

theorem Runs.trans {middle : Scene} (run : Runs scene acts middle) (rest : Runs middle more later) :
    Runs scene (acts ++ more) later := by
  induction rest with
  | start => rwa [List.append_nil]
  | step _ step ih =>
    rw [← List.append_assoc]
    exact ih.step step

/-! ### Time goes on -/

/-- All waits can look at once, and then time can pass. -/
theorem exists_rest (scene : Scene) : ∃ rest, Runs scene [] rest ∧ rest.now = scene.now ∧
    rest.state = scene.state ∧ Step rest [] { rest with now := rest.now + 1 } := by
  have looked : ∀ before after, Runs { scene with watches := before ++ after } []
      { scene with watches := before ++ after.map (Watch.poll scene.state scene.now) } := by
    intro before after
    induction after generalizing before with
    | nil => exact .start
    | cons watch after ih =>
      have first : Step { scene with watches := before ++ watch :: after } []
          { scene with watches := before ++ watch.poll scene.state scene.now :: after } :=
        .poll rfl
      have others := ih (before ++ [watch.poll scene.state scene.now])
      rw [List.append_assoc, List.append_assoc] at others
      exact (Runs.start.step first).trans others
  refine ⟨_, looked [] scene.watches, rfl, rfl, .pass (Nat.lt_succ_self _) fun watch member => ?_⟩
  obtain ⟨earlier, -, rfl⟩ := List.mem_map.mp member
  exact earlier.idleUntil_poll scene.state scene.now

/-! ### What tokens and waits tell -/

/-- What becomes of a wait is told by the first cancellation and by its limit. -/
structure Watch.Told (acts : List (Nat × Act)) (scene : Scene) (watch : Watch) : Prop where
  /-- It is over when the owner of its token cancels, or at once if that was before. -/
  resolved : ∀ time, watch.fate = .resolved time → OfOwner acts watch.token ∧
    ∃ cancelled, cancelledAt acts = some cancelled ∧ time = max watch.since cancelled
  /-- While it goes on, its owner can only have cancelled at this very instant, and the next look
  is the last. -/
  pending : ∀ memory, watch.fate = .pending memory → OfOwner acts watch.token →
    ∀ cancelled, cancelledAt acts = some cancelled →
      watch.since ≤ cancelled ∧ cancelled = scene.now ∧
        (watch.poll scene.state scene.now).fate = .resolved scene.now
  /-- It is given up at its limit, and not after its owner has cancelled. -/
  expired : ∀ time, watch.fate = .expired time →
    (∃ limit, watch.limit = some limit ∧ time = watch.since + limit) ∧
      (OfOwner acts watch.token → ∀ cancelled, cancelledAt acts = some cancelled →
        time ≤ cancelled)

/-- What tokens and waits tell of what has been done, now and later. -/
structure Tells (acts : List (Nat × Act)) (scene : Scene) : Prop where
  /-- A token sees the cancellation exactly if its owner has cancelled. -/
  tokens : ∀ token, scene.state.isCancelled token = true ↔
    OfOwner acts token ∧ ∃ time, (time, Act.cancel) ∈ acts
  /-- Once a token sees it, this token and its relatives, old and new, see it forever. -/
  forever : ∀ more later, Runs scene more later → ∀ token,
    scene.state.isCancelled token = true → later.state.isCancelled token = true ∧
      ∀ relative, OfOwner (acts ++ more) relative → later.state.isCancelled relative = true
  /-- An owner that has left does not cancel. -/
  left : (∃ time, (time, Act.leave) ∈ acts) → ∀ more later, Runs scene more later →
    ∀ time, (time, Act.cancel) ∉ more
  /-- A wait that begins now is over at once exactly if its token sees the cancellation. -/
  atOnce : ∀ token limit, (Watch.begin scene.state scene.now token limit).fate =
    .resolved scene.now ↔ scene.state.isCancelled token = true
  waits : ∀ watch ∈ scene.watches, watch.Told acts scene
  /-- A wait that is carried out while nothing happens ends with what its token sees. -/
  quietly : ∀ token, scene.state.wait token = scene.state.isCancelled token
  /-- A wait during which the owner cancels ends in time if the owner had cancelled before, or if
  it does so within the limit. -/
  disturbed : ∀ token limit delay seen next,
    scene.state.waitCancelled token limit delay = some (seen, next) →
      (seen = true ↔ OfOwner acts token ∧
        ((∃ time, (time, Act.cancel) ∈ acts) ∨ 0 < limit ∧ delay ≤ limit))
  /-- Nothing keeps time from passing once the waits have looked. -/
  rest : ∃ rest, Runs scene [] rest ∧ rest.now = scene.now ∧ rest.state = scene.state ∧
    Step rest [] { rest with now := rest.now + 1 }

theorem Faithful.isCancelled_iff (faithful : Faithful acts scene) (token : Nat) :
    scene.state.isCancelled token = true ↔
      OfOwner acts token ∧ ∃ time, (time, Act.cancel) ∈ acts := by
  rw [isCancelled, (faithful.dated_watched token).cancelled, ← faithful.observes,
    ← isSome_cancelledAt]
  by_cases observes : scene.state.Observes token
  · rw [seenBy_of_observes observes, and_iff_right observes]
  · rw [seenBy_of_not_observes observes]
    simp [observes]

theorem Faithful.told (faithful : Faithful acts scene) (member : watch ∈ scene.watches) :
    watch.Told acts scene := by
  obtain ⟨-, pending, resolved, expired⟩ := faithful.sound watch member
  have own := faithful.observes watch.token
  refine ⟨fun time fate => ?_, fun memory fate owner cancelled first => ?_, fun time fate => ?_⟩
  · obtain ⟨cancelled, seen, same⟩ := resolved time fate
    obtain ⟨observes, first⟩ := mem_seenBy_iff.mp seen
    exact ⟨own.mp observes, cancelled, first, same⟩
  · obtain ⟨remembers, -, -, awake⟩ := pending memory fate
    have seen := mem_seenBy_iff.mpr ⟨own.mpr owner, first⟩
    obtain ⟨before, present⟩ := awake cancelled seen
    refine ⟨before, present, ?_⟩
    -- Whatever the wait remembers, it falls short of the cancellation.
    have sees : (scene.state.watched watch.token).wake memory = .resolved := by
      rw [remembers.wake_eq_resolved_iff, (faithful.dated_watched watch.token).cancelled]
      exact Option.isSome_iff_exists.mpr ⟨cancelled, seen⟩
    rw [Watch.poll, fate]
    exact if_pos sees
  · obtain ⟨-, limited, before⟩ := expired time fate
    refine ⟨limited, fun owner cancelled first => ?_⟩
    exact before cancelled (mem_seenBy_iff.mpr ⟨own.mpr owner, first⟩)

/-- An owner that has left does not come back. -/
theorem Runs.not_owned (run : Runs scene more later) (left : scene.state.switch.owned = false) :
    later.state.switch.owned = false ∧ ∀ time, (time, Act.cancel) ∉ more := by
  induction run with
  | start => exact ⟨left, fun _ => List.not_mem_nil⟩
  | step _ step ih =>
    obtain ⟨gone, silent⟩ := ih
    cases step with
    | cancel able => simp [(cancel_eq_some.mp able).1] at gone
    | leave able => simp [(leave_eq_some.mp able).1] at gone
    | token able => simp [(token_eq_some.mp able).1] at gone
    | clone known => exact ⟨gone, by simpa using silent⟩
    | never => exact ⟨gone, by simpa using silent⟩
    | wait | poll | pass => exact ⟨gone, by simpa using silent⟩

theorem wait_eq_isCancelled (state : Cancellation) (token : Nat) :
    state.wait token = state.isCancelled token := by
  rw [wait, isCancelled, Bool.eq_iff_iff, decide_eq_true_iff]
  exact Switch.look_eq_resolved_iff

theorem Faithful.waitCancelled_iff (faithful : Faithful acts scene) {limit delay : Nat}
    {seen : Bool} (waited : scene.state.waitCancelled token limit delay = some (seen, next)) :
    seen = true ↔ OfOwner acts token ∧
      ((∃ time, (time, Act.cancel) ∈ acts) ∨ 0 < limit ∧ delay ≤ limit) := by
  obtain ⟨later, able, same⟩ := Option.map_eq_some_iff.mp waited
  obtain ⟨owned, rfl⟩ := cancel_eq_some.mp able
  obtain ⟨rfl, -⟩ := Prod.mk.injEq .. ▸ same
  rw [decide_eq_true_iff, ← faithful.observes, ← isSome_cancelledAt, ← faithful.dated.cancelled]
  by_cases observes : scene.state.Observes token
  · have turned : watched { scene.state with switch := scene.state.switch.cancel } token =
        scene.state.switch.cancel := if_pos observes
    rw [watched_of_observes observes, turned, and_iff_right observes]
    split_ifs with timely
    · have woken := ((Switch.remembers_look _).cancel owned).wake_eq_resolved_iff
      exact iff_of_true (woken.mpr rfl) (.inr timely)
    · rw [or_iff_left timely]
      exact Switch.look_eq_resolved_iff
  · -- Such a token observes nothing that anyone cancels, now or later.
    have turned : watched { scene.state with switch := scene.state.switch.cancel } token =
        .abandoned := if_neg observes
    rw [watched_of_not_observes observes, turned]
    refine iff_of_false ?_ fun both => observes both.1
    split_ifs <;> nofun

/-- Whatever an owner, its tokens and the waits do, they tell what has been done. -/
theorem tokens_tell (run : Runs (.start now) acts scene) : Tells acts scene := by
  have faithful := run.faithful
  refine ⟨faithful.isCancelled_iff, ?_, ?_, ?_, fun watch member => faithful.told member,
    wait_eq_isCancelled scene.state, fun _ _ _ _ _ waited => faithful.waitCancelled_iff waited,
    exists_rest scene⟩
  · intro more later rest token sees
    obtain ⟨own, time, done⟩ := (faithful.isCancelled_iff token).mp sees
    have relatives : ∀ relative, OfOwner (acts ++ more) relative →
        later.state.isCancelled relative = true := fun relative own =>
      ((run.trans rest).faithful.isCancelled_iff relative).mpr
        ⟨own, time, List.mem_append_left more done⟩
    exact ⟨relatives token (own.append more), relatives⟩
  · rintro ⟨time, done⟩ more later rest
    have gone : scene.state.switch.owned = false := Bool.eq_false_iff.mpr fun owned =>
      faithful.owned.mp owned time done
    exact (rest.not_owned gone).2
  · intro token limit
    rw [isCancelled, ← Switch.look_eq_resolved_iff]
    exact Watch.judge_eq_resolved_iff

/-- A wait is woken by an owner that cancels and leaves before the wait looks. -/
theorem tokens_tell_gone_owner : ∃ scene,
    Runs (.start 0) [(0, .clone 0), (5, .cancel), (5, .leave)] scene ∧
      Tells [(0, .clone 0), (5, .cancel), (5, .leave)] scene ∧
      scene.watches.map Watch.fate = [.resolved 5] := by
  have quiet : Runs (.start 0) [(0, .clone 0)]
      ⟨5, .clone .start 0, [⟨1, 0, none, .pending (.asleep 0)⟩]⟩ := by
    have cloned : Runs (.start 0) [(0, .clone 0)] ⟨0, .clone .start 0, []⟩ :=
      Runs.start.step (.clone (by decide))
    refine (cloned.step (@Step.wait _ 1 none (by decide))).step (.pass (by decide) ?_)
    intro watch member memory fate
    obtain rfl := List.mem_singleton.mp member
    cases fate
    exact ⟨rfl, nofun⟩
  have woken := ((quiet.step (.cancel rfl)).step (.leave rfl)).step (@Step.poll _ [] [] _ rfl)
  exact ⟨_, woken, tokens_tell woken, rfl⟩

end Resharing.Cancellation
