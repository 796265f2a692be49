/-
Getting in at a server that turns attempts away before it accepts one.

- `connectWithRetry_eq`: the whole run, for any setbacks: a round of attempt and wait for each of them, whatever it is,
  and then the attempt that is accepted. By induction on the setbacks; each attempt that fails uses one up.
- `retry_outlasts_refusals`: a server that refuses some connections is outlasted with one attempt more, while a single
  attempt fails with the number and the words of the first refusal.
-/
import SqlGateway.Store.Connection

namespace SqlGateway

namespace Connection

/-- an attempt that fails, and the wait behind it -/
def failedRound (c : DatabaseConfig) : List Event := [.attempt, .close, .wait c.retryIntervalSecs]

/-- **The whole run of retrying.** How often the server turns attempts away is all that counts. -/
theorem connectWithRetry_eq (c : DatabaseConfig) (setbacks : List Setback) :
    connectWithRetry c setbacks =
      ⟨(List.replicate setbacks.length (failedRound c)).flatten ++ [.attempt], ⟨c.options⟩⟩ := by
  induction setbacks with
  | nil => exact connectWithRetry_nil c
  | cons s rest ih =>
    rw [connectWithRetry_cons, ih, List.length_cons, List.replicate_succ, List.flatten_cons, List.append_assoc]
    rfl

theorem connectWithRetry_attempts (c : DatabaseConfig) (setbacks : List Setback) :
    (connectWithRetry c setbacks).attempts = setbacks.length + 1 := by
  have hround : (failedRound c).count .attempt = 1 := rfl
  rw [connectWithRetry_eq, Trial.attempts, List.count_append, List.count_flatten, List.map_replicate, hround,
    List.sum_replicate_nat, Nat.mul_one]
  rfl

/-! ## Main result -/

/-- what comes of retrying where `count` attempts are refused: a connection, out of `count + 1` attempts; behind each
attempt that is refused one interval is waited for, behind the last there is nothing -/
structure Outlasts (c : DatabaseConfig) (count : Nat) (t : Trial Connection) : Prop where
  connected : t.result = ⟨c.options⟩
  attempts : t.attempts = count + 1
  events : t.events = (List.replicate count (failedRound c)).flatten ++ [.attempt]

/-- what comes of one attempt at the server where retrying ends with the connection: the first refusal, by its number and
its words, and the same connection if there is none -/
structure TriesOnce (refusals : List Refusal) (connection : Connection) (t : Trial (Except StoreError Connection)) :
    Prop where
  attempts : t.attempts = 1
  unwaited : ∀ seconds, .wait seconds ∉ t.events
  refused : ∀ r ∈ refusals.head?, ∃ e, t.result = .error e ∧ e.errno = some r.code.toUInt32 ∧ e.message = r.message
  accepted : refusals.head? = none → t.result = .ok connection

/-- **Refusals are outlasted**, however many there are and whatever they say; one attempt reports the first of them. -/
theorem retry_outlasts_refusals (c : DatabaseConfig) (refusals : List Refusal) :
    Outlasts c refusals.length (connectWithRetry c (refusals.map .refused)) ∧
      TriesOnce refusals (connectWithRetry c (refusals.map .refused)).result (connect c (refusals.map .refused)) := by
  have hlength : (refusals.map Setback.refused).length = refusals.length := List.length_map _
  have hrun := connectWithRetry_eq c (refusals.map .refused)
  have hattempts := connectWithRetry_attempts c (refusals.map .refused)
  rw [hlength] at hrun hattempts
  refine ⟨⟨by rw [hrun], hattempts, by rw [hrun]⟩, ?_⟩
  rw [hrun]
  cases refusals with
  | nil => exact ⟨rfl, by simp [connect], nofun, fun _ => rfl⟩
  | cons r rest =>
    refine ⟨rfl, by simp [connect], fun r' hr' => ?_, nofun⟩
    cases hr'
    exact ⟨_, rfl, rfl, rfl⟩

end Connection

end SqlGateway
