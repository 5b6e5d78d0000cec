import MvdEdge.Storage.Queue

/-! The cloud transport: what `CloudTransport` makes of the outcome of an HTTP
exchange. A raised `Exception` is carried as its text. -/

set_option autoImplicit false

namespace MvdEdge

inductive Json where
  | null
  | bool (value : Bool)
  | int (value : Int)
  | float (value : PyFloat)
  | str (value : Str)
  | arr (items : List Json)
  | obj (fields : List (Str × Json))

namespace Json

def typeName : Json → Str
  | .null => "NoneType".toList
  | .bool _ => "bool".toList
  | .int _ => "int".toList
  | .float _ => "float".toList
  | .str _ => "str".toList
  | .arr _ => "list".toList
  | .obj _ => "dict".toList

def truthy : Json → Bool
  | .null => false
  | .bool value => value
  | .int value => decide (value ≠ 0)
  | .float value => decide (value ≠ .finite 0)
  | .str value => decide (value ≠ [])
  | .arr items => !items.isEmpty
  | .obj fields => !fields.isEmpty

/-- `fields.get(name)`. A repeated key keeps its last value. -/
def get (fields : List (Str × Json)) (name : Str) : Json :=
  match fields.reverse.find? fun field => decide (field.1 = name) with
  | some field => field.2
  | none => .null

def isText (text : Str) : Json → Bool
  | .str value => decide (value = text)
  | _ => false

end Json

/-- What an exchange raises: a `RequestException`, or something `requests` does not
turn into one. -/
inductive HttpException where
  | requestException (text : Str)
  | other (text : Str)

/-- How `requests.post` ends. Of a response, `response.text` and `response.json()` may
raise in their turn: a body that is no JSON is a `RequestException`, an integer of too
many digits or arrays nested too deep are not. -/
inductive HttpReply where
  | raised (exception : HttpException)
  | response (statusCode : Nat) (text : Except HttpException Str)
      (body : Except HttpException Json)

structure DeliveryResult where
  success : Bool
  duplicate : Bool := false
  status : Json := .null
  eventId : Json := .null
  error : Option Str := none

/-- The least integer that rounds beyond the largest double. -/
def floatOverflow : Nat := 2 ^ 1024 - 2 ^ 970

/-- `format_ms`, of which only the failure of `f"{value:.0f} ms"` has an effect. -/
def formatMs : Json → Except Str Unit
  | .int value =>
      if value.natAbs < floatOverflow then .ok ()
      else .error "int too large to convert to float".toList
  | _ => .ok ()

def printSuccess (result : List (Str × Json)) : Except Str Unit := do
  let timing := match Json.get result "timing".toList with
    | .obj fields => fields
    | _ => []
  formatMs (Json.get timing "edge_to_api_ms".toList)
  formatMs (Json.get timing "api_processing_ms".toList)
  formatMs (Json.get timing "edge_to_db_ms".toList)

def isStoredStatus (status : Json) : Bool :=
  status.isText "stored".toList || status.isText "already_stored".toList

def httpError (statusCode : Nat) (text : Str) : Str :=
  "HTTP ".toList ++ (toString statusCode).toList ++ ": ".toList ++ text

def noGet (body : Json) : Str :=
  "'".toList ++ body.typeName ++ "' object has no attribute 'get'".toList

/-- `except requests.RequestException as error`. -/
def HttpException.handled : HttpException → Except Str DeliveryResult
  | .requestException text => .ok { success := false, error := some text }
  | .other text => .error text

theorem HttpException.handled_fails {exception : HttpException} {result : DeliveryResult}
    (handled : exception.handled = .ok result) : result.success = false := by
  cases exception with
  | requestException text => exact (Except.ok.inj handled) ▸ rfl
  | other text => exact nomatch handled

section Transport

-- `str(value)` of a decoded value; it only enters error texts.
variable (str : Json → Str)

/-- `send_payload`, from the end of `requests.post` on. -/
def sendPayloadResult : HttpReply → Except Str DeliveryResult
  | .raised exception => exception.handled
  | .response statusCode text body =>
      if statusCode ≠ 201 then
        match text with
        | .error exception => exception.handled
        | .ok text => .ok { success := false, error := some (httpError statusCode text) }
      else
        match body with
        | .error exception => exception.handled
        | .ok (.obj result) => do
            let status := Json.get result "status".toList
            let duplicate := (Json.get result "duplicate".toList).truthy ||
              status.isText "already_stored".toList
            if isStoredStatus status then
              printSuccess result
              return { success := true, duplicate, status
                       eventId := Json.get result "event_id".toList }
            else
              return { success := false, status
                       error := some ("Unexpected API status: ".toList ++ str status) }
        | .ok body => .error (noGet body)

/-- `send_heartbeat`, from the end of `requests.post` on. -/
def sendHeartbeatResult : HttpReply → Except Str DeliveryResult
  | .raised exception => exception.handled
  | .response statusCode text body =>
      if statusCode ≠ 200 then
        match text with
        | .error exception => exception.handled
        | .ok text => .ok { success := false, error := some (httpError statusCode text) }
      else
        match body with
        | .error exception => exception.handled
        | .ok (.obj result) =>
            let status := Json.get result "status".toList
            let ok := status.isText "ok".toList
            .ok { success := ok, status
                  error := if ok then none else some "Heartbeat failed".toList }
        | .ok body => .error (noGet body)

def HttpReply.acknowledges : HttpReply → Bool
  | .response statusCode _ (.ok (.obj result)) =>
      statusCode == 201 && isStoredStatus (Json.get result "status".toList)
  | _ => false

def HttpReply.accepted (reply : HttpReply) : Bool :=
  match sendPayloadResult str reply with
  | .ok result => result.success
  | .error _ => false

theorem sendPayloadResult_acknowledges {reply : HttpReply} {result : DeliveryResult}
    (answer : sendPayloadResult str reply = .ok result) (success : result.success = true) :
    reply.acknowledges = true := by
  have refused {exception : HttpException} (handled : exception.handled = .ok result) : False := by
    simp [HttpException.handled_fails handled] at success
  cases reply with
  | raised exception => exact (refused answer).elim
  | response statusCode text body =>
      by_cases created : statusCode = 201
      · subst created
        cases body with
        | error exception => exact (refused answer).elim
        | ok json =>
            cases json with
            | obj fields =>
                by_cases stored : isStoredStatus (Json.get fields "status".toList) = true
                · rw [HttpReply.acknowledges, stored]
                  rfl
                · simp only [sendPayloadResult, stored, ne_eq, not_true_eq_false,
                    Bool.false_eq_true, ↓reduceIte] at answer
                  simp [← Except.ok.inj answer] at success
            | _ => exact nomatch answer
      · simp only [sendPayloadResult, created, ne_eq, not_false_eq_true, ↓reduceIte] at answer
        cases text with
        | error exception => exact (refused answer).elim
        | ok text => simp [← Except.ok.inj answer] at success

theorem HttpReply.acknowledges_of_accepted {reply : HttpReply}
    (taken : reply.accepted str = true) : reply.acknowledges = true := by
  unfold accepted at taken
  cases answer : sendPayloadResult str reply with
  | ok result => exact sendPayloadResult_acknowledges str answer (by simpa [answer] using taken)
  | error message => simp [answer] at taken

end Transport

/-- One exchange: what the cloud did with the request and what came back of it.
The answer may be lost, but a cloud that acknowledges has stored. -/
structure Exchange where
  reply : HttpReply
  stored : Bool
  honest : reply.acknowledges = true → stored = true

/-- A cloud that keeps one event for each `edge_event_id`, and all it was ever sent. -/
structure Cloud where
  sent : List EventPayload
  stored : Lib.InsertionDict Str EventPayload

namespace Cloud

def empty : Cloud := ⟨[], .empty⟩

/-- A request arrives; the event is stored, dropped as a duplicate, or not handled. -/
def receive (cloud : Cloud) (payload : EventPayload) (stored : Bool) : Cloud where
  sent := cloud.sent ++ [payload]
  stored :=
    if stored = true ∧ payload.edgeEventId ∉ cloud.stored.keys then
      cloud.stored.set payload.edgeEventId payload
    else cloud.stored

theorem mem_keys_receive {cloud : Cloud} {payload : EventPayload} {stored : Bool} {key : Str} :
    key ∈ (cloud.receive payload stored).stored.keys ↔
      key ∈ cloud.stored.keys ∨ (stored = true ∧ key = payload.edgeEventId) := by
  unfold receive
  by_cases fresh : stored = true ∧ payload.edgeEventId ∉ cloud.stored.keys
  · rw [if_pos fresh, Lib.InsertionDict.keys_set, if_neg fresh.2, List.mem_append,
      List.mem_singleton]
    simp only [fresh.1, true_and]
  · rw [if_neg fresh]
    constructor
    · exact .inl
    · intro either
      obtain known | ⟨kept, rfl⟩ := either
      · exact known
      · by_contra missing
        exact fresh ⟨kept, missing⟩

theorem get?_receive {cloud : Cloud} {payload event : EventPayload} {stored : Bool} {key : Str}
    (found : (cloud.receive payload stored).stored.get? key = some event) :
    cloud.stored.get? key = some event ∨ (key = payload.edgeEventId ∧ event = payload) := by
  unfold receive at found
  by_cases fresh : stored = true ∧ payload.edgeEventId ∉ cloud.stored.keys
  · rw [if_pos fresh, Lib.InsertionDict.get?_set] at found
    by_cases same : key = payload.edgeEventId
    · rw [if_pos same, Option.some_inj] at found
      exact .inr ⟨same, found.symm⟩
    · rw [if_neg same] at found
      exact .inl found
  · rw [if_neg fresh] at found
    exact .inl found

end Cloud

end MvdEdge
