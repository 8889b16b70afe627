import TypedSql.Session.Connection

/-!
# Exchanges with a connection

What the calls that reach a connection make of it, told from its replies alone. A connection
has handed out at most one cursor that is not closed yet, and its replies say when the token
fires. Calls are in order where a statement is opened only while no cursor is open, rows are
asked of the open cursor, and neither is started once the token has fired.
-/

namespace TypedSql

namespace ConnectionCall

/-- Whether the call starts something that the token can stop. -/
def starts : ConnectionCall → Bool
  | .open _ => true
  | .fetch _ => true
  | .close => false

/-- Whether the call opens a statement. -/
def opens : ConnectionCall → Bool
  | .open _ => true
  | _ => false

end ConnectionCall

/-- A connection in the middle of its calls. -/
structure Exchange where
  fired : Bool
  /-- Whether a call did not complete because the token fired. -/
  cut : Bool
  /-- The replies to the statements still to be opened. -/
  replies : List OpenReply
  /-- The cursor that was handed out and is not closed yet, with the replies it has left. -/
  cursor : Option Cursor

namespace Exchange

/-- The connection after a call, if the call is possible. -/
def answer (exchange : Exchange) : ConnectionCall → Option Exchange
  | .open _ =>
      match exchange.cursor, exchange.replies with
      | some _, _ => none
      | none, [] => some { exchange with cursor := some .empty }
      | none, .cursor cursor fires :: rest =>
          some ⟨exchange.fired || fires, exchange.cut, rest, some cursor⟩
      | none, .failure _ fires :: rest =>
          some ⟨exchange.fired || fires, exchange.cut, rest, none⟩
      | none, .interrupted :: rest => some ⟨true, true, rest, none⟩
  | .fetch found =>
      exchange.cursor.bind fun cursor =>
        match found, cursor.fetches with
        | false, [] => some exchange
        | true, .row _ fires :: _ =>
            some ⟨exchange.fired || fires, exchange.cut, exchange.replies, some cursor.advance⟩
        | false, .failure _ :: _ =>
            some ⟨exchange.fired, exchange.cut, exchange.replies, some cursor.advance⟩
        | false, .interrupted :: _ =>
            some ⟨true, true, exchange.replies, some cursor.advance⟩
        | _, _ => none
  | .close =>
      exchange.cursor.map fun cursor =>
        ⟨exchange.fired || cursor.closeFires, exchange.cut, exchange.replies, none⟩

/-- Calls each of which is possible, and none of which is started after the token fired. -/
inductive InOrder : Exchange → List ConnectionCall → Exchange → Prop
  | nothing (exchange : Exchange) : InOrder exchange [] exchange
  | call
      {exchange next last : Exchange}
      {call : ConnectionCall}
      {calls : List ConnectionCall} :
      (call.starts = true → exchange.fired = false) →
      exchange.answer call = some next →
      InOrder next calls last →
      InOrder exchange (call :: calls) last

/-- The number of cursors that replies hand out when so many statements are opened. -/
def handedOut : List OpenReply → Nat → Nat
  | _, 0 => 0
  | [], opened + 1 => opened + 1
  | .cursor _ _ :: rest, opened + 1 => handedOut rest opened + 1
  | _ :: rest, opened + 1 => handedOut rest opened

variable {exchange next last : Exchange} {call : ConnectionCall}
  {calls others : List ConnectionCall}

theorem InOrder.append
    (first : InOrder exchange calls next)
    (second : InOrder next others last) :
    InOrder exchange (calls ++ others) last := by
  induction first with
  | nothing => exact second
  | call unfired answered _ inductionHypothesis =>
      exact .call unfired answered (inductionHypothesis second)

theorem InOrder.one
    (unfired : call.starts = true → exchange.fired = false)
    (answered : exchange.answer call = some next) :
    InOrder exchange [call] next :=
  .call unfired answered (.nothing next)

theorem handedOut_nil (opened : Nat) : handedOut [] opened = opened := by
  cases opened <;> rfl

/-- One call hands out a cursor, closes one, or does neither. -/
theorem handedOut_answer
    (answered : exchange.answer call = some next)
    (opened : Nat) :
    handedOut exchange.replies (opened + call.opens.toNat) + exchange.cursor.toList.length =
      handedOut next.replies opened + next.cursor.toList.length +
        [call].count .close := by
  obtain ⟨fired, cut, replies, cursor⟩ := exchange
  unfold answer at answered
  split at answered
  · split at answered
    · cases answered
    all_goals
      cases answered
      simp_all [handedOut, handedOut_nil, ConnectionCall.opens]
  · obtain ⟨held, isOpen, answered⟩ := Option.bind_eq_some_iff.mp answered
    split at answered <;> cases answered <;> simp_all [ConnectionCall.opens]
  · obtain ⟨held, isOpen, rfl⟩ := Option.map_eq_some_iff.mp answered
    simp_all [ConnectionCall.opens]

/-- Every cursor that was handed out is closed once or is still open. -/
theorem InOrder.closes (inOrder : InOrder exchange calls last) :
    calls.count .close + last.cursor.toList.length =
      handedOut exchange.replies (calls.countP ConnectionCall.opens) +
        exchange.cursor.toList.length := by
  induction inOrder with
  | nothing => simp [handedOut]
  | @call exchange next last call calls _ answered _ inductionHypothesis =>
      have step := handedOut_answer answered (calls.countP ConnectionCall.opens)
      have split : (call :: calls).countP ConnectionCall.opens =
          calls.countP ConnectionCall.opens + call.opens.toNat := by
        rw [List.countP_cons]
        cases call.opens <;> rfl
      rw [split, step, ← List.singleton_append, List.count_append]
      omega

end Exchange
end TypedSql
