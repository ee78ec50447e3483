import Nidavellir.Lib.Framing
import Nidavellir.Lib.Text
import Nidavellir.Lib.Utf8

namespace Nidavellir.PipeServer

open Framing Text Utf8

def newline : UInt8 := 10

/-- What the service makes of the text of a request: it handles it and serializes the response. -/
structure Service (A : Type*) where
  respond : List Char → A → Except String (List Char) × A

/-- A connected client: what the server reads from it, and whether a write behind what was written
so far gets through. -/
structure Client where
  input : Source UInt8 String
  takes : List UInt8 → List UInt8 → Except String Unit

/-- How an instance of the pipe came to a client; a client that was there before the wait counts as
connected. -/
inductive Accepted
  | invalidHandle
  | connectFailed (e : String)
  | connected (client : Client)

structure Served (A : Type*) where
  result : Except String Unit
  app : A
  written : List UInt8
  closed : Bool

structure ServerState (A : Type*) where
  app : A
  sent : List (List UInt8)
  openInstances : Nat

namespace Service

variable {A : Type*} (service : Service A)

def serveLine (client : Client) (line : List UInt8) (s : A × List UInt8) :
    Except String Unit × (A × List UInt8) :=
  match ofBytes line with
  | none => (.error "stream did not contain valid UTF-8", s)
  | some text =>
    let trimmed := trim text
    if trimmed = [] then (.ok (), s)
    else
      match service.respond trimmed s.1 with
      | (.error e, app) => (.error e, (app, s.2))
      | (.ok response, app) =>
        let out := bytes (response ++ ['\n'])
        match client.takes s.2 out with
        | .error e => (.error s!"WriteFile failed: {e}", (app, s.2))
        | .ok () => (.ok (), (app, s.2 ++ out))

/-- A failure while reading or writing returns before the instance is closed. -/
def serveOneClient (app : A) : Accepted → Served A
  | .invalidHandle => ⟨.error "CreateNamedPipeW failed", app, [], true⟩
  | .connectFailed e => ⟨.error s!"ConnectNamedPipe failed: {e}", app, [], true⟩
  | .connected client =>
    let (result, app, written) := pump newline (service.serveLine client) client.input.ending
      client.input.chunks [] (app, [])
    ⟨result, app, written, result.isOk⟩

/-- The server loop over the clients that come. -/
def runPipeServer : List Accepted → ServerState A → ServerState A
  | [], s => s
  | accepted :: later, s =>
    let served := service.serveOneClient s.app accepted
    runPipeServer later
      { app := served.app
        sent := s.sent ++ [served.written]
        openInstances := if served.closed then s.openInstances else s.openInstances + 1 }

/-- The responses to a sequence of requests, until one fails. -/
def answers : List (List Char) → A → List (List Char) × A
  | [], app => ([], app)
  | request :: requests, app =>
    match service.respond request app with
    | (.error _, app) => ([], app)
    | (.ok response, app) =>
      let (responses, app) := answers requests app
      (response :: responses, app)

end Service

/-- What a client makes of the bytes it was sent. -/
def readLine (received : List UInt8) : Option (List Char) :=
  (ofBytes (received.takeWhile (· ≠ newline))).map trim

def encodeLine (text : List Char) : List UInt8 := bytes (text ++ ['\n'])

/-- The requests that a client's lines make. -/
def requestsOf (texts : List (List Char)) : List (List Char) :=
  (texts.map trim).filter (· ≠ [])

def endResult : Option String → Except String Unit
  | some e => .error e
  | none => .ok ()

theorem requestsOf_cons_blank {text : List Char} {texts : List (List Char)} (h : trim text = []) :
    requestsOf (text :: texts) = requestsOf texts := by
  simp [requestsOf, h]

theorem requestsOf_cons {text : List Char} {texts : List (List Char)} (h : trim text ≠ []) :
    requestsOf (text :: texts) = trim text :: requestsOf texts := by
  simp [requestsOf, h]

theorem encodeLine_eq (text : List Char) : encodeLine text = bytes text ++ [newline] := by
  unfold encodeLine bytes
  rw [List.flatMap_append]
  rfl

theorem newline_notMem {text : List Char} (h : '\n' ∉ text) : newline ∉ bytes text :=
  fun hmem => h (newline_mem_bytes.mp hmem)

theorem trim_append_newline (text : List Char) : trim (text ++ ['\n']) = trim text := by
  have hspace : isWhitespace '\n' = true := rfl
  have hend : ∀ x : List Char, trimEnd (x ++ ['\n']) = trimEnd x :=
    fun x => List.rdropWhile_concat_pos _ _ _ hspace
  unfold trim trimStart
  rw [List.dropWhile_append]
  split
  next h =>
    rw [List.isEmpty_iff.mp h, List.dropWhile_cons_of_pos hspace]
    rfl
  next => exact hend _

section

variable {A : Type*} {service : Service A} {client : Client}

variable (service) in
/-- The response line to a request line. -/
theorem serveLine_text (htakes : ∀ written out, client.takes written out = .ok ())
    (text : List Char) (s : A × List UInt8) :
    service.serveLine client (encodeLine text) s =
      if trim text = [] then (.ok (), s)
      else
        match service.respond (trim text) s.1 with
        | (.error e, app) => (.error e, (app, s.2))
        | (.ok response, app) => (.ok (), (app, s.2 ++ encodeLine response)) := by
  unfold Service.serveLine encodeLine
  simp only [ofBytes_bytes, trim_append_newline, htakes]

/-- The answers to the request lines, in order, then the end of the input. -/
theorem handleFrames_texts (hanswers : ∀ text app, (service.respond text app).1.isOk = true)
    (htakes : ∀ written out, client.takes written out = .ok ()) (texts : List (List Char))
    (app : A) (written : List UInt8) :
    handleFrames newline (service.serveLine client) client.input.ending
        (texts.map bytes ++ [[]]) (app, written) =
      (endResult client.input.ending, (service.answers (requestsOf texts) app).2,
        written ++ (service.answers (requestsOf texts) app).1.flatMap encodeLine) := by
  induction texts generalizing app written with
  | nil =>
    show handleOpen _ client.input.ending [] (app, written) = _
    unfold handleOpen endResult
    cases client.input.ending <;> simp [requestsOf, Service.answers]
  | cons text texts ih =>
    have hframes : (text :: texts).map bytes ++ [[]] = bytes text :: (texts.map bytes ++ [[]]) :=
      rfl
    obtain ⟨next, lines, hnext⟩ : ∃ next lines, texts.map bytes ++ [[]] = next :: lines :=
      List.exists_cons_of_ne_nil (by simp)
    have hline := serveLine_text service htakes text (app, written)
    rw [encodeLine_eq] at hline
    rw [hframes, hnext, handleFrames, hline, ← hnext]
    by_cases hblank : trim text = []
    · rw [if_pos hblank, requestsOf_cons_blank hblank]
      exact ih app written
    · rw [if_neg hblank, requestsOf_cons hblank, Service.answers]
      have hok := hanswers (trim text) app
      cases hanswer : service.respond (trim text) app with
      | mk answer app' =>
        rw [hanswer] at hok
        cases answer with
        | error e => cases hok
        | ok response =>
          simp only
          rw [ih app' (written ++ encodeLine response), List.flatMap_cons, List.append_assoc]

/-- However the bytes of the request lines arrive, each line that is not blank is answered once and
in order, and the instance is closed just when the input ended well. -/
theorem serveOneClient_answers (service : Service A)
    (hanswers : ∀ text app, (service.respond text app).1.isOk = true) (client : Client)
    (htakes : ∀ written out, client.takes written out = .ok ()) (texts : List (List Char))
    (hlines : ∀ text ∈ texts, '\n' ∉ text)
    (hbytes : client.input.chunks.flatten = texts.flatMap encodeLine) (app : A) :
    service.serveOneClient app (.connected client) =
      { result := endResult client.input.ending
        app := (service.answers (requestsOf texts) app).2
        written := (service.answers (requestsOf texts) app).1.flatMap encodeLine
        closed := client.input.ending.isNone } := by
  have hsplit : ∀ texts : List (List Char), (∀ text ∈ texts, '\n' ∉ text) →
      (texts.flatMap encodeLine).splitOn newline = texts.map bytes ++ [[]] := by
    intro texts hlines
    induction texts with
    | nil => rfl
    | cons text texts ih =>
      obtain ⟨htext, hlines⟩ := List.forall_mem_cons.mp hlines
      rw [List.flatMap_cons, encodeLine_eq, List.append_assoc, List.singleton_append,
        List.splitOn_append_cons_self, List.splitOn_eq_singleton (newline_notMem htext), ih hlines]
      rfl
  have hserved := handleFrames_texts hanswers htakes texts app []
  simp only [Service.serveOneClient]
  rw [pump_eq, List.nil_append, hbytes, hsplit texts hlines, hserved]
  cases client.input.ending <;> rfl

end

/-- A call sends one request line and takes one line back. -/
structure Call where
  request : List Char
  oneLine : '\n' ∉ request
  nonblank : trim request ≠ []
  client : Client
  sends : client.input.chunks.flatten = encodeLine request
  listens : ∀ written out, client.takes written out = .ok ()

theorem readLine_encodeLine {response : List Char} (h : '\n' ∉ response) :
    readLine (encodeLine response) = some (trim response) := by
  have htake : (encodeLine response).takeWhile (· ≠ newline) = bytes response := by
    rw [encodeLine_eq, List.takeWhile_append_of_pos]
    · simp
    · intro byte hbyte
      exact decide_eq_true fun heq => newline_notMem h (heq ▸ hbyte)
  rw [readLine, htake, ofBytes_bytes, Option.map_some]

/-- One call: its request is handled once, and its client takes the response to it. -/
theorem serveOneClient_call {A : Type*} (service : Service A)
    (hanswers : ∀ text app, (service.respond text app).1.isOk = true) (call : Call) (app : A) :
    ∃ response, service.respond (trim call.request) app =
        (.ok response, (service.respond (trim call.request) app).2) ∧
      service.serveOneClient app (.connected call.client) =
        { result := endResult call.client.input.ending
          app := (service.respond (trim call.request) app).2
          written := encodeLine response
          closed := call.client.input.ending.isNone } := by
  have hserved := serveOneClient_answers service hanswers call.client call.listens [call.request]
    (by simpa using call.oneLine) (by simpa using call.sends) app
  rw [requestsOf_cons call.nonblank] at hserved
  have hok := hanswers (trim call.request) app
  cases hanswer : service.respond (trim call.request) app with
  | mk answer app' =>
    rw [hanswer] at hok
    cases answer with
    | error e => cases hok
    | ok response =>
      refine ⟨response, rfl, ?_⟩
      rw [hserved]
      simp [requestsOf, Service.answers, hanswer]

/-- The calls of any clients: each gets the response to its own request, the service passes through
the requests in the order of the connections, and an instance stays open for each client whose end
the server read as an error. -/
theorem runPipeServer_calls {A : Type*} (service : Service A)
    (hanswers : ∀ text app, (service.respond text app).1.isOk = true)
    (honeLine : ∀ text app response, (service.respond text app).1 = .ok response →
      '\n' ∉ response) (calls : List Call) (s : ServerState A) :
    let run := service.runPipeServer (calls.map fun call => .connected call.client) s
    let answered := service.answers (calls.map fun call => trim call.request) s.app
    run.sent.map readLine =
        s.sent.map readLine ++ answered.1.map (fun response => some (trim response)) ∧
      run.app = answered.2 ∧
      run.openInstances =
        s.openInstances + calls.countP (·.client.input.ending.isSome) := by
  induction calls generalizing s with
  | nil => simp [Service.runPipeServer, Service.answers]
  | cons call calls ih =>
    obtain ⟨response, hanswer, hserved⟩ := serveOneClient_call service hanswers call s.app
    have hline : '\n' ∉ response := honeLine _ s.app response (by rw [hanswer])
    rw [List.map_cons, List.map_cons, Service.runPipeServer, Service.answers, hserved]
    obtain ⟨hsent, happ, hopen⟩ := ih
      { app := (service.respond (trim call.request) s.app).2
        sent := s.sent ++ [encodeLine response]
        openInstances :=
          if call.client.input.ending.isNone then s.openInstances else s.openInstances + 1 }
    generalize service.respond (trim call.request) s.app = answer at hanswer hsent happ hopen ⊢
    rw [hanswer] at hsent happ hopen ⊢
    simp only at hsent happ hopen ⊢
    refine ⟨?_, happ, ?_⟩
    · rw [hsent, List.map_append, List.map_singleton, readLine_encodeLine hline]
      simp
    · rw [hopen, List.countP_cons]
      cases call.client.input.ending with
      | none => simp
      | some e =>
        simp
        omega

/-- Counts its requests. -/
def counter : Service Nat where
  respond _ n := (.ok "pong".toList, n + 1)

theorem counter_answers (text : List Char) (n : Nat) :
    (counter.respond text n).1.isOk = true := rfl

theorem counter_oneLine (text : List Char) (n : Nat) (response : List Char)
    (h : (counter.respond text n).1 = .ok response) : '\n' ∉ response := by
  obtain rfl := Except.ok.inj h
  decide

/-- A request in two pieces, from a client whose end breaks the pipe. -/
def brokenPing : Call where
  request := "ping".toList
  oneLine := by decide
  nonblank := by decide
  client :=
    { input := ⟨[bytes "pi".toList, encodeLine "ng".toList], some "0x8007006D", by decide⟩
      takes := fun _ _ => .ok () }
  sends := by decide
  listens _ _ := rfl

theorem serveOneClient_answers_brokenPing :
    counter.serveOneClient 0 (.connected brokenPing.client) =
      { result := .error "0x8007006D"
        app := 1
        written := encodeLine "pong".toList
        closed := false } :=
  serveOneClient_answers counter counter_answers brokenPing.client brokenPing.listens
    ["ping".toList] (by decide) (by decide) 0

theorem runPipeServer_calls_brokenPing :
    (counter.runPipeServer [.connected brokenPing.client, .connected brokenPing.client]
        ⟨0, [], 0⟩).sent.map readLine = [some "pong".toList, some "pong".toList] ∧
      (counter.runPipeServer [.connected brokenPing.client, .connected brokenPing.client]
        ⟨0, [], 0⟩).openInstances = 2 := by
  obtain ⟨hsent, -, hopen⟩ := runPipeServer_calls counter counter_answers counter_oneLine
    [brokenPing, brokenPing] ⟨0, [], 0⟩
  exact ⟨hsent.trans (by decide), hopen⟩

end Nidavellir.PipeServer
