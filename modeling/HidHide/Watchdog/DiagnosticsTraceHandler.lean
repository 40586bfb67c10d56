import Mathlib.Data.List.DropRight
import HidHide.ForMathlib.Numerals
import HidHide.Watchdog.DiagnosticsTraceService

/-!
# The requests to the diagnostics interface

`DiagnosticsTraceHandler.cpp` and `HidHideDiagnosticsJson.cpp`: a request is a method, the path of
its URI and a body, and its reply a status code with a JSON object or with the capture file. The
JSON parser is a parameter.

The body of a request to start is read in pieces into a buffer of limited size. What counts is the
length of the body alone: a body within the limit is read as it is, and nothing of a larger one
gets to the parser or to the service (`handlePostStart_eq`).
-/

namespace HidHide

/-! ### Requests and replies -/

/-- `HTTPServerRequest`: `stream` is what can be read of the body, and `contentLength` is negative
if the length is not known. -/
structure HttpRequest where
  method : String
  path : String
  contentLength : ℤ := -1
  stream : List UInt8 := []
  deriving DecidableEq

/-- The values in the objects that are sent. -/
inductive ApiValue where
  | bool (b : Bool)
  | int64 (n : ℤ)
  | string (s : String)
  | object (members : List (String × ApiValue))

/-- What is sent after the header: an object, by its members, or the content of a file. -/
inductive HttpBody where
  | json (members : List (String × ApiValue))
  | file (path : String)

/-- `HTTPServerResponse`. -/
structure HttpResponse where
  status : ℕ
  contentType : String
  contentDisposition : Option String := none
  body : HttpBody

/-- `NormalizePath`. -/
def normalizePath (path : String) : String := String.ofList (path.toList.rdropWhile (· == '/'))

/-- `WriteErrorJson`. -/
def writeErrorJson (e : ApiError) : List (String × ApiValue) :=
  [("error", .object ([("code", .string e.code), ("message", .string e.message)] ++
    (e.win32.map fun win32 => ("win32", ApiValue.int64 win32.toNat)).toList))]

/-- `WriteStatusJson`. -/
def writeStatusJson (r : TraceStatusResponse) : List (String × ApiValue) :=
  [("state", .string (match r.state with
    | .idle => "idle"
    | .recording => "recording"
    | .ready => "ready"))] ++
  (r.startedAtEpoch.map fun t => ("startedAt", ApiValue.int64 t)).toList ++
  (r.stoppedAtEpoch.map fun t => ("stoppedAt", ApiValue.int64 t)).toList ++
  (r.suggestedFileName.map fun name => ("suggestedFileName", ApiValue.string name)).toList ++
  (r.message.map fun message => ("message", ApiValue.string message)).toList

/-- `SendJson`. -/
def sendJson (status : ℕ) (members : List (String × ApiValue)) : HttpResponse where
  status := status
  contentType := "application/json"
  body := .json members

/-- `SendError`. -/
def sendError (status : ℕ) (e : ApiError) : HttpResponse := sendJson status (writeErrorJson e)

/-! ### The body of a request to start -/

/-- The bytes of an ASCII literal. -/
def asciiBytes (s : String) : List UInt8 := s.toList.map fun c => .ofNat c.toNat

/-- `std::tolower`. -/
def toLowerByte (c : UInt8) : UInt8 := if 0x41 ≤ c ∧ c ≤ 0x5A then c + 0x20 else c

/-- `IEquals`. -/
def iEquals (a b : List UInt8) : Bool := a.map toLowerByte = b.map toLowerByte

/-- `ParseScope`. -/
def parseScope (value : List UInt8) : Option TraceScope :=
  if iEquals value (asciiBytes "full") then some .full
  else if iEquals value (asciiBytes "driver") then some .driver
  else if iEquals value (asciiBytes "userspace") then some .userspace
  else none

/-- A `Poco::JSON::Object`. An error is the text of a `Poco::Exception`. -/
structure PocoObject where
  has : String → Bool
  getString : String → Except String (List UInt8)
  getBool : String → Except String Bool

/-- `Poco::JSON::Parser::parse` and the extraction of the object, which may be null. -/
abbrev PocoParser := List UInt8 → Except String (Option PocoObject)

/-- `ParseStartBody`. A scope that it does not know leaves the default. -/
def parseStartBody (parse : PocoParser) (jsonUtf8 : List UInt8) :
    Except String TraceStartRequest := do
  let req : TraceStartRequest := {}
  if jsonUtf8 = [] then return req
  let some obj ← parse jsonUtf8 | return req
  let req ←
    if obj.has "scope" then do
      match parseScope (← obj.getString "scope") with
      | some s => pure { req with scope := s }
      | none => pure req
    else pure req
  if obj.has "tuneChannels" then
    return { req with tuneChannels := ← obj.getBool "tuneChannels" }
  else return req

/-- `kMaxTraceStartBodyBytes`. -/
def kMaxTraceStartBodyBytes : ℕ := 65536

/-- The size of `chunk` in `ReadTraceStartBodyBounded`. -/
def chunkSize : ℕ := 8192

/-- The loop of `ReadTraceStartBodyBounded`: the body, and what is left of the stream. A read
returns what it is asked for, or what there is up to the end of the stream. -/
def readChunks (body stream : List UInt8) : List UInt8 × List UInt8 :=
  if _more : body.length < kMaxTraceStartBodyBytes then
    let want := min chunkSize (kMaxTraceStartBodyBytes - body.length)
    if _got : stream.take want = [] then (body, stream)
    else readChunks (body ++ stream.take want) (stream.drop want)
  else (body, stream)
termination_by kMaxTraceStartBodyBytes - body.length
decreasing_by
  have hgot := List.length_pos_of_ne_nil _got
  simp only [want] at hgot
  rw [List.length_append]
  omega

/-- The error of a body that is too large. -/
def payloadTooLarge : ApiError :=
  ⟨"payload_too_large", "Request body exceeds maximum allowed size.", none⟩

/-- `ReadTraceStartBodyBounded`, with what is left of the stream. -/
def readTraceStartBodyBounded (request : HttpRequest) :
    Except ApiError (List UInt8) × List UInt8 :=
  if 0 ≤ request.contentLength ∧ (kMaxTraceStartBodyBytes : ℤ) < request.contentLength then
    (.error payloadTooLarge, request.stream)
  else
    let r := readChunks [] request.stream
    if kMaxTraceStartBodyBytes ≤ r.1.length then
      if r.2.take 1 ≠ [] then (.error payloadTooLarge, r.2.drop 1) else (.ok r.1, r.2.drop 1)
    else (.ok r.1, r.2)

/-! ### The handlers -/

/-- The outcomes of what a request can call. `opens` tells whether the capture can be opened. -/
structure RequestOutcome where
  start : StartOutcome
  stop : StopOutcome
  discard : DiscardOutcome
  fileExists : Bool
  opens : Bool

/-- `kApiTraceBase`. -/
def kApiTraceBase : String := "/api/v1/diagnostics/trace"

/-- The characters that do not separate the names of a path. -/
def isNameChar (c : Char) : Bool := c ≠ '\\' ∧ c ≠ '/'

/-- `std::filesystem::path::filename` of a path with a directory. -/
def pathFilename (path : String) : String := String.ofList (path.toList.rtakeWhile isNameChar)

/-- `SYSTEMTIME`. -/
structure SystemTime where
  wYear : UInt16
  wMonth : UInt16
  wDay : UInt16
  wHour : UInt16
  wMinute : UInt16
  wSecond : UInt16

/-- `%04u`, `%02u` and `%08x`. -/
def numeral (b width n : ℕ) : String :=
  String.ofList ((Numerals.padded b width n).map Nat.digitChar)

/-- The name in `MakeUniqueEtlPath`. -/
def etlFileName (st : SystemTime) (tick : UInt32) : String :=
  "HidHide-trace-" ++ numeral 10 4 st.wYear.toNat ++ numeral 10 2 st.wMonth.toNat ++
    numeral 10 2 st.wDay.toNat ++ "-" ++ numeral 10 2 st.wHour.toNat ++
    numeral 10 2 st.wMinute.toNat ++ numeral 10 2 st.wSecond.toNat ++ "-" ++
    numeral 16 8 tick.toNat ++ ".etl"

namespace Watchdog

variable (parse : PocoParser) (getErrorMessageA : Win32Error → String)

/-- `HandleGetStatus`. `GetStatus` returns no error. -/
def handleGetStatus (w : Watchdog) : HttpResponse := sendJson 200 (writeStatusJson w.getStatus)

/-- The status code that `HandlePostStart` gives an error of `Start`. -/
def startErrorStatus (code : String) : ℕ :=
  if code = "recording_in_progress" then 409
  else if code = "trace_start_failed" ∨ code = "channel_tune_failed" ∨
      code = "previous_capture_delete_failed" then 500
  else 400

/-- `HandlePostStart` from the body on. -/
def postStart (body : List UInt8) (o : StartOutcome) (w : Watchdog) : HttpResponse × Watchdog :=
  match parseStartBody parse body with
  | .error what => (sendError 400 ⟨"bad_request", "Invalid JSON: " ++ what, none⟩, w)
  | .ok parsed =>
      let r := w.start getErrorMessageA parsed o
      match r.1 with
      | .error e => (sendError (startErrorStatus e.code) e, r.2)
      | .ok () =>
          (sendJson 200 [("ok", .bool true), ("message", .string "Recording started.")], r.2)

/-- `HandlePostStart`. -/
def handlePostStart (request : HttpRequest) (o : StartOutcome) (w : Watchdog) :
    HttpResponse × Watchdog :=
  match (readTraceStartBodyBounded request).1 with
  | .error readErr => (sendError 413 readErr, w)
  | .ok body => w.postStart parse getErrorMessageA body o

/-- `HandlePostStop`. -/
def handlePostStop (o : StopOutcome) (w : Watchdog) : HttpResponse × Watchdog :=
  let r := w.stop getErrorMessageA o
  match r.1 with
  | .error e => (sendError (if e.code = "not_recording" then 400 else 500) e, r.2)
  | .ok stopped =>
      (sendJson 200 ([("ok", .bool true),
        ("suggestedFileName", .string stopped.suggestedFileName)] ++
          (stopped.message.map fun message => ("message", ApiValue.string message)).toList), r.2)

/-- `HandleGetEtl` from the path on: the file is opened outside of the mutex. -/
def sendEtl (opens : Bool) (path : String) : HttpResponse :=
  if ¬opens then
    sendError 500 ⟨"open_failed", "Could not open capture file for reading.", none⟩
  else
    { status := 200
      contentType := "application/octet-stream"
      contentDisposition := some ("attachment; filename=\"" ++ pathFilename path ++ "\"")
      body := .file path }

/-- `HandleGetEtl`. -/
def handleGetEtl (fileExists opens : Bool) (w : Watchdog) : HttpResponse :=
  match w.getEtlPathForDownload fileExists with
  | .error e => sendError 400 e
  | .ok path => sendEtl opens path

/-- `HandleDelete`. -/
def handleDelete (o : DiscardOutcome) (w : Watchdog) : HttpResponse × Watchdog :=
  let r := w.discardCapture getErrorMessageA o
  match r.1 with
  | .error e => (sendError 500 e, r.2)
  | .ok () => (sendJson 200 [("ok", .bool true), ("message", .string "Capture discarded.")], r.2)

/-- `DiagnosticsTraceHandler::handleRequest`. -/
def handleRequest (request : HttpRequest) (o : RequestOutcome) (w : Watchdog) :
    HttpResponse × Watchdog :=
  let p := normalizePath request.path
  if p = kApiTraceBase ∧ request.method = "GET" then (w.handleGetStatus, w)
  else if p = kApiTraceBase ∧ request.method = "DELETE" then
    w.handleDelete getErrorMessageA o.discard
  else if p = kApiTraceBase ++ "/start" ∧ request.method = "POST" then
    w.handlePostStart parse getErrorMessageA request o.start
  else if p = kApiTraceBase ++ "/stop" ∧ request.method = "POST" then
    w.handlePostStop getErrorMessageA o.stop
  else if p = kApiTraceBase ++ "/etl" ∧ request.method = "GET" then
    (w.handleGetEtl o.fileExists o.opens, w)
  else (sendError 404 ⟨"not_found", "Unknown diagnostics route.", none⟩, w)

/-- `createRequestHandler`, and `handleRequest` of the handler that it creates. -/
def serveRequest (request : HttpRequest) (o : RequestOutcome) (w : Watchdog) :
    HttpResponse × Watchdog :=
  if "/api/v1/diagnostics/".toList <+: (normalizePath request.path).toList then
    w.handleRequest parse getErrorMessageA request o
  else (sendError 404 ⟨"not_found", "The requested resource was not found.", none⟩, w)

end Watchdog

/-! ### What is read of a body -/

/-- The loop reads the body on up to the limit. -/
theorem readChunks_eq (body stream : List UInt8) (h : body.length ≤ kMaxTraceStartBodyBytes) :
    readChunks body stream = (body ++ stream.take (kMaxTraceStartBodyBytes - body.length),
      stream.drop (kMaxTraceStartBodyBytes - body.length)) := by
  fun_induction readChunks body stream with
  | case1 body stream hlt want hgot =>
    -- the stream has ended, as at least one byte was asked for
    have hwant : want ≠ 0 := by
      simp only [want, chunkSize]
      omega
    have hstream : stream = [] := (List.take_eq_nil_iff.mp hgot).resolve_left hwant
    simp [hstream]
  | case2 body stream hlt want hgot ih =>
    have hle : want ≤ kMaxTraceStartBodyBytes - body.length := min_le_right ..
    have hlength : (stream.take want).length ≤ want := List.length_take_le ..
    rw [ih (by rw [List.length_append]; omega), List.append_assoc]
    rcases Nat.lt_or_ge stream.length want with hshort | hlong
    · -- the last piece is shorter than asked for
      simp only [List.take_of_length_le hshort.le, List.drop_of_length_le hshort.le, List.take_nil,
        List.drop_nil, List.append_nil]
      rw [List.take_of_length_le (by omega), List.drop_of_length_le (by omega)]
    · have htake : (stream.take want).length = want := List.length_take_of_le hlong
      have hrest : kMaxTraceStartBodyBytes - body.length =
          want + (kMaxTraceStartBodyBytes - (body ++ stream.take want).length) := by
        rw [List.length_append, htake]
        omega
      rw [hrest, List.take_add, ← List.drop_drop]
  | case3 body stream hlt =>
    have hzero : kMaxTraceStartBodyBytes - body.length = 0 := by omega
    simp [hzero]

/-- Neither the length that is announced nor the length of the body is above the limit. -/
def HttpRequest.Fits (request : HttpRequest) : Prop :=
  request.contentLength ≤ kMaxTraceStartBodyBytes ∧
    request.stream.length ≤ kMaxTraceStartBodyBytes

instance (request : HttpRequest) : Decidable request.Fits :=
  inferInstanceAs (Decidable (_ ∧ _))

/-- A body within the limit is read to its end. Of any other at most one byte more than the limit
is read, and none if its length is announced. -/
theorem readTraceStartBodyBounded_eq (request : HttpRequest) :
    readTraceStartBodyBounded request =
      if request.Fits then (.ok request.stream, [])
      else (.error payloadTooLarge,
        if request.contentLength ≤ kMaxTraceStartBodyBytes then
          request.stream.drop (kMaxTraceStartBodyBytes + 1)
        else request.stream) := by
  have hread := readChunks_eq [] request.stream (by simp)
  rw [List.length_nil, Nat.sub_zero, List.nil_append] at hread
  rw [readTraceStartBodyBounded, hread]
  by_cases hdeclared : request.contentLength ≤ kMaxTraceStartBodyBytes
  · rw [if_neg (by omega)]
    by_cases hstream : request.stream.length ≤ kMaxTraceStartBodyBytes
    · have hfits : request.Fits := ⟨hdeclared, hstream⟩
      rw [if_pos hfits, List.take_of_length_le hstream, List.drop_of_length_le hstream]
      simp
    · have hfits : ¬request.Fits := fun h => hstream h.2
      have hextra : (request.stream.drop kMaxTraceStartBodyBytes).take 1 ≠ [] := by
        rw [ne_eq, List.take_eq_nil_iff, List.drop_eq_nil_iff]
        omega
      rw [if_neg hfits, if_pos hdeclared]
      dsimp only
      rw [if_pos (by rw [List.length_take]; omega), if_pos hextra, List.drop_drop]
  · have hfits : ¬request.Fits := fun h => hdeclared h.1
    rw [if_pos ⟨by omega, by omega⟩, if_neg hfits, if_neg hdeclared]

/-- The handler of a request to start goes on with the whole body, or refuses the request. -/
theorem Watchdog.handlePostStart_cases (parse : PocoParser)
    (getErrorMessageA : Win32Error → String) (request : HttpRequest) (o : StartOutcome)
    (w : Watchdog) :
    w.handlePostStart parse getErrorMessageA request o =
      if request.Fits then w.postStart parse getErrorMessageA request.stream o
      else (sendError 413 payloadTooLarge, w) := by
  rw [handlePostStart, readTraceStartBodyBounded_eq]
  split_ifs <;> rfl

/-- **Bodies of requests to start**: the parser gets the body as it was sent, whole, if it is within
the limit, and otherwise the request is refused, whatever the body says, and changes nothing. No
more of it is read than one byte above the limit. -/
theorem handlePostStart_eq (parse : PocoParser) (getErrorMessageA : Win32Error → String)
    (request : HttpRequest) (o : StartOutcome) (w : Watchdog) :
    w.handlePostStart parse getErrorMessageA request o =
        (if request.Fits then w.postStart parse getErrorMessageA request.stream o
          else (sendError 413 payloadTooLarge, w)) ∧
      ∃ n ≤ kMaxTraceStartBodyBytes + 1,
        (readTraceStartBodyBounded request).2 = request.stream.drop n := by
  refine ⟨w.handlePostStart_cases parse getErrorMessageA request o, ?_⟩
  rw [readTraceStartBodyBounded_eq]
  by_cases hfits : request.Fits
  · rw [if_pos hfits]
    exact ⟨kMaxTraceStartBodyBytes, by omega, (List.drop_of_length_le hfits.2).symm⟩
  · rw [if_neg hfits]
    by_cases hdeclared : request.contentLength ≤ kMaxTraceStartBodyBytes
    · exact ⟨kMaxTraceStartBodyBytes + 1, le_rfl, if_pos hdeclared⟩
    · exact ⟨0, by omega, by rw [if_neg hdeclared, List.drop_zero]⟩

/-! ### File names -/

theorem numeral_isNameChar {b width n : ℕ} (hb : 1 < b) (hle : b ≤ 16) :
    ∀ c ∈ (numeral b width n).toList, isNameChar c := by
  intro c hc
  rw [numeral, String.toList_ofList] at hc
  obtain ⟨d, hd, rfl⟩ := List.mem_map.mp hc
  have hdigits : ∀ d < 16, isNameChar (Nat.digitChar d) := by decide
  exact hdigits d ((Numerals.padded_lt hb hd).trans_le hle)

theorem etlFileName_isNameChar (st : SystemTime) (tick : UInt32) :
    ∀ c ∈ (etlFileName st tick).toList, isNameChar c := by
  have hliterals : "HidHide-trace-".toList.all isNameChar ∧ "-".toList.all isNameChar ∧
      ".etl".toList.all isNameChar := by decide
  simp only [List.all_eq_true] at hliterals
  have hdecimal : ∀ width n, ∀ c ∈ (numeral 10 width n).toList, isNameChar c := fun _ _ =>
    numeral_isNameChar (by decide) (by decide)
  have hhexadecimal : ∀ width n, ∀ c ∈ (numeral 16 width n).toList, isNameChar c := fun _ _ =>
    numeral_isNameChar (by decide) (by decide)
  unfold etlFileName
  simp only [String.toList_append, List.forall_mem_append]
  exact ⟨⟨⟨⟨⟨⟨⟨⟨⟨⟨hliterals.1, hdecimal _ _⟩, hdecimal _ _⟩, hdecimal _ _⟩, hliterals.2.1⟩,
    hdecimal _ _⟩, hdecimal _ _⟩, hdecimal _ _⟩, hliterals.2.1⟩, hhexadecimal _ _⟩, hliterals.2.2⟩

/-- The name of a file with a name of `MakeUniqueEtlPath` is that name. -/
theorem pathFilename_etlFileName (directory : String) (st : SystemTime) (tick : UInt32) :
    pathFilename (directory ++ "\\" ++ etlFileName st tick) = etlFileName st tick := by
  have hname : ∀ c ∈ (etlFileName st tick).toList.reverse, isNameChar c := fun c hc =>
    etlFileName_isNameChar st tick c (List.mem_reverse.mp hc)
  rw [pathFilename, List.rtakeWhile, String.toList_append, String.toList_append,
    List.reverse_append, List.takeWhile_append_of_pos hname, List.reverse_append]
  simp [isNameChar]

theorem etlFileName_ne (st : SystemTime) (tick : UInt32) : etlFileName st tick ≠ "" := by
  unfold etlFileName
  simp

end HidHide
