import NativeBridge.Dispatch.ScriptDispatch
import NativeBridge.Proofs.Effect
import NativeBridge.Proofs.Promises

/-!
The operations of the two dispatchers, each by what it gives and the world it leads to: taking the first task or the
first call, running what waits, delivering a wake-up, collecting what was promised.
-/

namespace NativeBridge

open Eff

variable {S : Sides} {h : Host S} {w w' : World S} {id : PromiseId}

/-! ### Tasks -/

namespace LoopDispatch

lemma take_of_nil (hp : w.loop.pending = []) : take w = some (.ok none, w) := by
  simp only [take, update_apply, LoopQueue.pop_of_nil hp]

lemma take_of_cons {t : Task S.Job} {rest : List (Task S.Job)} (hp : w.loop.pending = t :: rest) :
    take w =
      some (.ok (some t), { w with loop := { w.loop with pending := rest, dispatched := w.loop.dispatched + 1 } }) := by
  simp only [take, update_apply, LoopQueue.pop_of_cons hp]

lemma take_none (hx : take w = some (.ok none, w')) : w.loop.pending = [] ∧ w' = w := by
  cases hp : w.loop.pending with
  | nil =>
    rw [take_of_nil hp] at hx
    cases hx
    exact ⟨rfl, rfl⟩
  | cons t rest =>
    rw [take_of_cons hp] at hx
    cases hx

lemma take_some {t : Task S.Job} (hx : take w = some (.ok (some t), w')) :
    ∃ rest, w.loop.pending = t :: rest ∧
      w' = { w with loop := { w.loop with pending := rest, dispatched := w.loop.dispatched + 1 } } := by
  cases hp : w.loop.pending with
  | nil =>
    rw [take_of_nil hp] at hx
    cases hx
  | cons t rest =>
    rw [take_of_cons hp] at hx
    cases hx
    exact ⟨rest, rfl, rfl⟩

/-- The error of a task ends that task only. -/
lemma run_ok {t : Task S.Job} {r : Except Error Unit} (hx : run h t w = some (r, w')) : r = .ok () := by
  cases t with
  | _ =>
    obtain ⟨q, w₁, -, hx⟩ := attempt_bind_eq_some.1 hx
    cases hx
    rfl

lemma drain_of_nil (hp : w.loop.pending = []) (fuel : Nat) : drain h (fuel + 1) w = some (.ok 0, w) := by
  rw [drain, bind_ok (take_of_nil hp)]
  rfl

/-- A drain that finds a task runs it and goes on, whatever the task ends with. -/
lemma drain_of_cons {t : Task S.Job} {rest : List (Task S.Job)} (hp : w.loop.pending = t :: rest) {fuel : Nat}
    {r : Except Error Nat} (hx : drain h (fuel + 1) w = some (r, w')) :
    ∃ w₁ q, run h t { w with loop := { w.loop with pending := rest, dispatched := w.loop.dispatched + 1 } } =
        some (.ok (), w₁) ∧ drain h fuel w₁ = some (q, w') ∧ r = q.map (· + 1) := by
  rw [drain, bind_ok (take_of_cons hp)] at hx
  rcases bind_eq_some.1 hx with ⟨_, w₁, hrun, hx⟩ | ⟨e, hrun, -⟩
  · rcases bind_eq_some.1 hx with ⟨n, w₂, hrest, hx⟩ | ⟨e, hrest, rfl⟩
    · cases hx
      exact ⟨w₁, .ok n, hrun, hrest, rfl⟩
    · exact ⟨w₁, .error e, hrun, hrest, rfl⟩
  · cases run_ok hrun

/-- A drain ends without an error, and then no task waits. -/
lemma drain_ok {fuel : Nat} {r : Except Error Nat} (hx : drain h fuel w = some (r, w')) :
    (∃ n, r = .ok n) ∧ w'.loop.pending = [] := by
  induction fuel generalizing w r with
  | zero => cases hx
  | succ fuel ih =>
    cases hp : w.loop.pending with
    | nil =>
      rw [drain_of_nil hp] at hx
      cases hx
      exact ⟨⟨0, rfl⟩, hp⟩
    | cons t rest =>
      obtain ⟨w₁, q, -, hrest, rfl⟩ := drain_of_cons hp hx
      obtain ⟨⟨n, rfl⟩, hempty⟩ := ih hrest
      exact ⟨⟨n + 1, rfl⟩, hempty⟩

lemma batch_ok {r : Except Error Unit} (hx : batch h w = some (r, w')) : r = .ok () := by
  rw [batch, bind_ok rfl] at hx
  rcases bind_eq_some.1 hx with ⟨n, w₁, -, hend⟩ | ⟨e, hdrain, -⟩
  · cases hend
    rfl
  · obtain ⟨⟨n, hn⟩, -⟩ := drain_ok hdrain
    cases hn

/-- A loop that runs what is posted ends without an error. -/
lemma runPosted_ok {fuel : Nat} {r : Except Error Nat} (hx : runPosted h fuel w = some (r, w')) : ∃ n, r = .ok n := by
  induction fuel generalizing w r with
  | zero => cases hx
  | succ fuel ih =>
    rw [runPosted, bind_ok (get_apply w), if_apply] at hx
    split at hx
    · cases hx
      exact ⟨0, rfl⟩
    · rcases bind_eq_some.1 hx with ⟨_, w₁, -, hx⟩ | ⟨e, hbatch, -⟩
      · rcases bind_eq_some.1 hx with ⟨n, w₂, -, hx⟩ | ⟨e, hrest, rfl⟩
        · cases hx
          exact ⟨n + 1, rfl⟩
        · exact ih hrest
      · cases batch_ok hbatch

end LoopDispatch

/-! ### Replies -/

namespace LoopRequest

lemma isPending_apply (id : PromiseId) (w : World S) : isPending id w = some (.ok (w.replies.Pending id), w) := by
  rw [isPending, bind_ok (get_apply w)]
  rcases hp : w.replies.get? id with _ | ⟨_ | r | _⟩ <;> simp [Promises.Pending, hp]

/-- A promise that nobody has settled is left as it is. -/
lemma collect_of_pending (h : w.replies.Pending id) : collect id w = some (.ok none, w) := by
  rw [collect, bind_ok (get_apply w), bind_ok (isPending_apply id w), if_pos (decide_eq_true h)]
  rfl

/-- What is collected is what the promise was kept with, or the news that nobody is left to keep it. -/
lemma collect_of_settled (h : ¬w.replies.Pending id) :
    ∃ r : Except Error S.Reply,
      collect id w = some (r.map some, { w with replies := w.replies.forget id }) ∧
        (w.replies.get? id = some (.kept r) ∨
          (w.replies.get? id = some .broken ∨ w.replies.get? id = none) ∧ r = .error .loopGone) := by
  rw [collect, bind_ok (get_apply w), bind_ok (isPending_apply id w), if_neg (by simpa using h),
    bind_ok (modify_apply _ w)]
  rcases hp : w.replies.get? id with _ | ⟨_ | r | _⟩
  · exact ⟨.error .loopGone, rfl, .inr ⟨.inr rfl, rfl⟩⟩
  · exact (h hp).elim
  · refine ⟨r, ?_, .inl rfl⟩
    cases r <;> rfl
  · exact ⟨.error .loopGone, rfl, .inr ⟨.inl rfl, rfl⟩⟩

/-- A reply that was looked for in vain changes nothing. -/
lemma collect_none (hx : collect id w = some (.ok none, w')) : w' = w := by
  by_cases hp : w.replies.Pending id
  · rw [collect_of_pending hp] at hx
    cases hx
    rfl
  · obtain ⟨r, hr, -⟩ := collect_of_settled hp
    rw [hr] at hx
    cases r <;> cases hx

lemma collect_some {r : Except Error S.Reply} (hx : collect id w = some (r.map some, w')) :
    w' = { w with replies := w.replies.forget id } ∧ ¬w.replies.Pending id ∧
      (w.replies.get? id = some (.kept r) ∨
        (w.replies.get? id = some .broken ∨ w.replies.get? id = none) ∧ r = .error .loopGone) := by
  by_cases hp : w.replies.Pending id
  · rw [collect_of_pending hp] at hx
    cases r <;> cases hx
  · obtain ⟨q, hq, houtcome⟩ := collect_of_settled hp
    rw [hq] at hx
    obtain rfl : q = r := by
      cases q <;> cases r <;> cases hx <;> rfl
    cases hx
    exact ⟨rfl, hp, houtcome⟩

/-- A wait for a reply that is there ends with it. -/
lemma await_of_collect {r : Except Error S.Reply} (hx : collect id w = some (r.map some, w')) (h : Host S)
    (fuel : Nat) : await h id (fuel + 1) w = some (r, w') := by
  cases r with
  | ok reply => exact bind_ok hx
  | error e => exact bind_error hx

end LoopRequest

/-! ### Calls -/

namespace ScriptDispatch

lemma take_of_nil (hp : w.script.pending = []) : take w = some (.ok none, w) := by
  simp only [take, update_apply, ScriptQueue.pop_of_nil hp]

lemma take_of_cons {call : PendingCall} {pending : List PendingCall} (hp : w.script.pending = call :: pending) :
    take w = some (.ok (some call), { w with script := { w.script with pending } }) := by
  simp only [take, update_apply, ScriptQueue.pop_of_cons hp]

lemma take_none (hx : take w = some (.ok none, w')) : w.script.pending = [] ∧ w' = w := by
  cases hp : w.script.pending with
  | nil =>
    rw [take_of_nil hp] at hx
    cases hx
    exact ⟨rfl, rfl⟩
  | cons call pending =>
    rw [take_of_cons hp] at hx
    cases hx

lemma take_some {call : PendingCall} (hx : take w = some (.ok (some call), w')) :
    ∃ pending, w.script.pending = call :: pending ∧ w' = { w with script := { w.script with pending } } := by
  cases hp : w.script.pending with
  | nil =>
    rw [take_of_nil hp] at hx
    cases hx
  | cons call pending =>
    rw [take_of_cons hp] at hx
    cases hx
    exact ⟨pending, rfl, rfl⟩

lemma process_of_nil (hp : w.script.pending = []) (fuel : Nat) :
    process h (fuel + 1) w = some (.ok 0, w) := by
  rw [process, bind_ok (take_of_nil hp)]
  rfl

/-- A run of what is queued that finds a call runs it and goes on, whatever the call ends with. -/
lemma process_of_cons {call : PendingCall} {pending : List PendingCall} (hp : w.script.pending = call :: pending)
    {fuel : Nat} {r : Except Error Nat} (hx : process h (fuel + 1) w = some (r, w')) :
    ∃ v w₁ w₂ q, h.script call.function call.args { w with script := { w.script with pending } } = some (v, w₁) ∧
      settle call (ending h w₁ v) w₁ = some (.ok (), w₂) ∧ process h fuel w₂ = some (q, w') ∧ r = q.map (· + 1) := by
  rw [process, bind_ok (take_of_cons hp)] at hx
  rcases bind_eq_some.1 hx with ⟨_, w₁, hended, hx⟩ | ⟨e, hended, -⟩
  · obtain ⟨v, w₂, hcall, hended⟩ := attempt_bind_eq_some.1 hended
    cases hended
    rw [settle, bind_ok (modify_apply _ w₁)] at hx
    rcases bind_eq_some.1 hx with ⟨n, w₂, hrest, hx⟩ | ⟨e, hrest, rfl⟩
    · cases hx
      exact ⟨v, w₁, _, .ok n, hcall, rfl, hrest, rfl⟩
    · exact ⟨v, w₁, _, .error e, hcall, rfl, hrest, rfl⟩
  · obtain ⟨v, w₁, -, hended⟩ := attempt_bind_eq_some.1 hended
    cases hended

/-- What is queued is run without an error, and then nothing is queued. -/
lemma process_ok {fuel : Nat} {r : Except Error Nat} (hx : process h fuel w = some (r, w')) :
    (∃ n, r = .ok n) ∧ w'.script.pending = [] := by
  induction fuel generalizing w r with
  | zero => cases hx
  | succ fuel ih =>
    cases hp : w.script.pending with
    | nil =>
      rw [process_of_nil hp] at hx
      cases hx
      exact ⟨⟨0, rfl⟩, hp⟩
    | cons call pending =>
      obtain ⟨v, w₁, w₂, q, -, -, hrest, rfl⟩ := process_of_cons hp hx
      obtain ⟨⟨n, rfl⟩, hempty⟩ := ih hrest
      exact ⟨⟨n + 1, rfl⟩, hempty⟩

lemma deliver_of_nil (hm : w.script.mailbox = []) : deliver w = some (.ok none, w) := by
  simp only [deliver, update_apply, hm]

lemma deliver_of_cons {generation : Nat} {mailbox : List Nat} (hm : w.script.mailbox = generation :: mailbox) :
    deliver w =
      some (.ok (some (w.script.generation == generation)), { w with script := { w.script with mailbox } }) := by
  simp only [deliver, update_apply, hm]

lemma deliver_none (hx : deliver w = some (.ok none, w')) : w.script.mailbox = [] ∧ w' = w := by
  cases hm : w.script.mailbox with
  | nil =>
    rw [deliver_of_nil hm] at hx
    cases hx
    exact ⟨rfl, rfl⟩
  | cons generation mailbox =>
    rw [deliver_of_cons hm] at hx
    cases hx

lemma deliver_some {current : Bool} (hx : deliver w = some (.ok (some current), w')) :
    ∃ generation mailbox, w.script.mailbox = generation :: mailbox ∧
      w' = { w with script := { w.script with mailbox } } ∧ current = (w.script.generation == generation) := by
  cases hm : w.script.mailbox with
  | nil =>
    rw [deliver_of_nil hm] at hx
    cases hx
  | cons generation mailbox =>
    rw [deliver_of_cons hm] at hx
    cases hx
    exact ⟨generation, mailbox, rfl, rfl, rfl⟩

lemma announce_script (hx : announce w = some (.ok (), w')) :
    w'.script = if w.script.channel = .eventLoop then w.script.sendWakeup else w.script := by
  cases hx
  dsimp only
  split <;> rfl

/-- A result that nobody has settled is left as it is; any other is given, or the news that there is none. -/
lemma collect_apply (w : World S) (id : PromiseId) :
    w.script.results.Pending id ∧ collect id w = some (.ok none, w) ∨
      ¬w.script.results.Pending id ∧ ∃ r : Except Error (Option ScriptResult), r ≠ .ok none ∧
        collect id w = some (r, { w with script := { w.script with results := w.script.results.forget id } }) := by
  simp only [Promises.Pending, collect, isPending]
  rw [bind_ok (get_apply w), bind_ok (bind_ok (get_apply w))]
  rcases hp : w.script.results.get? id with _ | ⟨_ | r | _⟩
  · exact .inr ⟨by simp, .error .scriptGone, by simp, rfl⟩
  · exact .inl ⟨rfl, rfl⟩
  · exact .inr ⟨by simp, .ok (some r), by simp, rfl⟩
  · exact .inr ⟨by simp, .error .scriptGone, by simp, rfl⟩

lemma collect_none (hx : collect id w = some (.ok none, w')) : w' = w := by
  rcases collect_apply w id with ⟨-, h⟩ | ⟨-, r, hr, h⟩
  · rw [h] at hx
    cases hx
    rfl
  · rw [h] at hx
    cases hx
    exact (hr rfl).elim

lemma collect_result {r : Except Error (Option ScriptResult)} (hr : r ≠ .ok none)
    (hx : collect id w = some (r, w')) :
    ¬w.script.results.Pending id ∧ w'.script = { w.script with results := w.script.results.forget id } := by
  rcases collect_apply w id with ⟨-, h⟩ | ⟨hp, r, -, h⟩
  · rw [h] at hx
    cases hx
    exact (hr rfl).elim
  · rw [h] at hx
    cases hx
    exact ⟨hp, rfl⟩

end ScriptDispatch

end NativeBridge
