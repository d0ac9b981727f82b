import Bearer.Client

/-!
An awaited exchange comes to the same as one that blocks: to keep the chunks on the way and to stop when
they are too many is to look first whether they are too many (`gather_eq`).
-/

namespace Bearer

namespace Async

variable {limit : Int}

/-- What was kept of a body counts towards the limit. -/
theorem gather_eq (broken : Option ExchangeError) (content : List UInt8) (chunks : List (List UInt8)) :
    gather limit broken content chunks =
      if Answer.exceeds limit content.length chunks then .error (.tooLarge limit)
      else broken.elim (.ok (content ++ chunks.flatten)) .error := by
  induction chunks generalizing content with
  | nil =>
    rw [Answer.exceeds, if_neg nofun, List.flatten_nil, List.append_nil]
    cases broken <;> rfl
  | cons chunk chunks ih =>
    unfold gather Answer.exceeds
    cases chunk with
    | nil => exact ih content
    | cons b bs =>
      have length : (content ++ b :: bs).length = content.length + (b :: bs).length := List.length_append
      rw [List.isEmpty_cons, if_neg Bool.false_ne_true, if_neg Bool.false_ne_true, append, ← length,
        List.flatten_cons, ← List.append_assoc]
      by_cases long : limit < (content ++ b :: bs).length
      · simp only [long, if_true, decide_true, Bool.true_or]
        rfl
      · simp only [long, if_false, decide_false, Bool.false_or]
        exact ih _

theorem read_eq (endpoint : String) (a : Answer) : read endpoint limit a = a.read endpoint limit := by
  unfold read Answer.read
  cases a.declaredLength?.filter (limit < ·) with
  | some size => rfl
  | none =>
    dsimp only
    rw [gather_eq, List.length_nil, List.nil_append]
    cases Answer.exceeds limit 0 a.delivered with
    | true => rfl
    | false =>
      unfold Answer.delivered
      cases a.breakAfter <;> rfl

theorem received_eq (r : Request) (url : Url) (host : String) (reply : Option (Except Failure Answer)) :
    received limit r url host reply = Bearer.received limit r url host reply := by
  unfold received Bearer.received
  simp only [read_eq]

theorem exchangeWith_eq (r : Request) (url : Url) : exchangeWith limit r url = Bearer.exchangeWith limit r url := by
  unfold exchangeWith Bearer.exchangeWith
  simp only [received_eq]

theorem exchange_eq (r : Request) : exchange limit r = Bearer.exchange limit r := by
  unfold exchange Bearer.exchange
  simp only [exchangeWith_eq]

end Async

theorem Client.fetch_eq (c : Client) (r : Request) : c.fetch r = exchange c.maxResponseBytes r := by
  unfold fetch
  rw [Async.exchange_eq, ite_self]

end Bearer
