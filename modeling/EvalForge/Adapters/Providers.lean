import EvalForge.Workers.Tasks

/-! # Provider calls

The two functions that post a request to a provider, by what the transport
answers, and the exceptions that leave them when the connection fails.
-/

namespace EvalForge

/-! ## The transports -/

/-- What `urlopen` or the reading of its response raises. Only `URLError` and
its subclass `HTTPError` are told apart. -/
inductive UrlopenError
  | urlError (reason : String)
  | httpError (code : Nat) (message : String)
  | other (exc : PythonException)

/-- `_post_json`, by what `urlopen` answers. -/
def postJson : Except UrlopenError Json → Except PythonException Json
  | .error (.urlError reason) =>
      .error ⟨s!"LLM provider request failed: <urlopen error {reason}>"⟩
  | .error (.httpError code message) =>
      .error ⟨s!"LLM provider request failed: HTTP Error {code}: {message}"⟩
  | .error (.other exc) => .error exc
  | .ok data =>
      if data.isDict then .ok data
      else .error ⟨"LLM provider response was not a JSON object"⟩

/-- What `httpx.post`, `raise_for_status` or `response.json` raises. -/
inductive HttpxError
  | statusError (statusCode : Nat) (body : String)
  | requestError (message : String)
  | jsonDecodeError (message : String)
  | other (exc : PythonException)

/-- `_post_chat_completion`, by what `httpx` answers. -/
def postChatCompletion : Except HttpxError Json → Except PythonException Json
  | .error (.statusError statusCode body) =>
      let excerpt := PythonText.truncate 500 body
      .error ⟨s!"Groq API request failed with HTTP {statusCode}: {excerpt}"⟩
  | .error (.requestError message) => .error ⟨s!"Groq API request failed: {message}"⟩
  | .error (.jsonDecodeError message) => .error ⟨s!"Groq API request failed: {message}"⟩
  | .error (.other exc) => .error exc
  | .ok data => .ok data

/-! ## Failing connections -/

/-- How the operating system or the transport words a failure. A refused
connection has its error number in front. -/
inductive ConnectionFailure
  | refused (errno : String)
  | timedOut
  | readTimedOut

namespace ConnectionFailure

def text : ConnectionFailure → String
  | refused errno => errno ++ "Connection refused"
  | timedOut => "timed out"
  | readTimedOut => "The read operation timed out"

def timeout : ConnectionFailure → Bool
  | refused _ => false
  | timedOut | readTimedOut => true

end ConnectionFailure

/-- Where a provider call fails: while `urlopen` connects, which makes it a
`URLError`, while the response is read, which does not, or inside `httpx`. -/
inductive ProviderCall
  | connecting
  | reading
  | httpx

namespace ProviderCall

def answer (failure : ConnectionFailure) : ProviderCall → Except PythonException Json
  | connecting => postJson (.error (.urlError failure.text))
  | reading => postJson (.error (.other ⟨failure.text⟩))
  | httpx => postChatCompletion (.error (.requestError failure.text))

def wrapping : ProviderCall → String × String
  | connecting => ("LLM provider request failed: <urlopen error ", ">")
  | reading => ("", "")
  | httpx => ("Groq API request failed: ", "")

def exception (call : ProviderCall) (failure : ConnectionFailure) : PythonException :=
  ⟨call.wrapping.1 ++ failure.text ++ call.wrapping.2⟩

/-- Whichever way a call fails, the adapter raises this exception. -/
theorem answer_eq_exception (call : ProviderCall) (failure : ConnectionFailure) :
    call.answer failure = .error (call.exception failure) := by
  cases call with
  | connecting => rfl
  | reading => simp [answer, exception, wrapping, postJson]
  | httpx => simp [answer, exception, wrapping, postChatCompletion, toString]

end ProviderCall

/-! ## Which of them are transient -/

theorem PythonText.lower_append (left right : String) :
    PythonText.lower (left ++ right) = PythonText.lower left ++ PythonText.lower right := by
  simp [PythonText.lower]

theorem isTransientError_of_contains {before words after keyword : String}
    (listed : keyword ∈ transientKeywords)
    (contained : keyword.toList <:+: PythonText.lower words) :
    isTransientError ⟨before ++ words ++ after⟩ = true := by
  apply List.any_eq_true.mpr
  refine ⟨keyword, listed, ?_⟩
  apply decide_eq_true
  rw [PythonText.lower_append, PythonText.lower_append]
  rcases contained with ⟨left, right, split⟩
  exact ⟨PythonText.lower before ++ left, right ++ PythonText.lower after, by simp [← split]⟩

/-- A refused connection is retried, a timeout is not: no keyword is contained
in `timed out`. -/
theorem ProviderCall.isTransientError_exception (call : ProviderCall)
    (failure : ConnectionFailure) :
    isTransientError (call.exception failure) = !failure.timeout := by
  cases failure with
  | refused errno =>
      have refused := @isTransientError_of_contains (call.wrapping.1 ++ errno) "Connection refused"
        call.wrapping.2 "connection" (by simp [transientKeywords]) (by decide +kernel)
      simpa [exception, ConnectionFailure.text, ConnectionFailure.timeout, String.append_assoc]
        using refused
  | timedOut => cases call <;> decide +kernel
  | readTimedOut => cases call <;> decide +kernel

end EvalForge
