/-
  AgentResilience.Sse — the live stream of a workflow: what `snapshots` of `stream_incident`
  (api.py) writes and what `startStream` of the dashboard (app.js) reads.

  A snapshot is an `event: incident` frame with one data line, the payload as `json.dumps`
  writes it; between snapshots stand keep-alive comments. The reader puts each chunk behind
  what was left of the last, splits at blank lines and parses the data line of every finished
  frame. The text is printable ASCII and line breaks, so a byte is a character.

  A JavaScript number is a binary64. Integers are sent in full and arrive rounded.

  - `stream_delivers`: every payload is delivered once and in order, whatever the cuts; it is
    the payload that was sent exactly when its integers are binary64 numbers.
    `count_rounded`: the count 2 ^ 54 + 1 is not one.
-/
import AgentResilience.Lib.Binary64
import AgentResilience.Lib.Frames
import AgentResilience.Lib.JsonRoundTrip

namespace AgentResilience.Sse

open Frames

/-! ## The encoder -/

/-- The payload of a snapshot: finite numbers, objects that are `dict`s. -/
structure Snapshot where
  payload : Json
  ok : payload.WellFormed

inductive Message where
  | incident (snapshot : Snapshot)
  | keepAlive

def Message.text : Message → String
  | incident snapshot => "event: incident\ndata: " ++ snapshot.payload.dumps Json.plain ++ "\n\n"
  | keepAlive => ": keep-alive\n\n"

def Message.snapshot? : Message → Option Snapshot
  | incident snapshot => some snapshot
  | keepAlive => none

/-- The bytes of the response. -/
def streamBytes (messages : List Message) : List UInt8 :=
  (messages.flatMap fun m => m.text.toList).flatMap String.utf8EncodeChar

/-! ## JavaScript values -/

inductive JsNumber where
  | finite (negative : Bool) (magnitude : ℚ)
  | infinite (negative : Bool)

inductive JsValue where
  | null
  | bool (b : Bool)
  | number (x : JsNumber)
  | string (s : String)
  | array (xs : List JsValue)
  | object (members : List (String × JsValue))

/-- The binary64 number of a literal. -/
def ofLiteral (negative : Bool) (magnitude : ℚ) : JsNumber :=
  if Binary64.nearest magnitude < 2 ^ 1024 then .finite negative (Binary64.nearest magnitude) else .infinite negative

/-- The number itself. -/
def exactInt (n : Int) : JsNumber := .finite (decide (n < 0)) (n.natAbs : ℚ)

def parsedInt (n : Int) : JsNumber := ofLiteral (decide (n < 0)) (n.natAbs : ℚ)

mutual

/-- A value with its integers as `int` has them. A float is sent by its repr, and is the number
    nearest to that. -/
def ofJson (int : Int → JsNumber) : Json → JsValue
  | .null => .null
  | .bool b => .bool b
  | .int n => .number (int n)
  | .float d => .number (ofLiteral d.neg ((d.digits : ℚ) * 10 ^ d.exp))
  | .str s => .string s
  | .arr xs => .array (ofItems int xs)
  | .obj fields => .object (ofFields int fields)

def ofItems (int : Int → JsNumber) : List Json → List JsValue
  | [] => []
  | x :: xs => ofJson int x :: ofItems int xs

def ofFields (int : Int → JsNumber) : List (String × Json) → List (String × JsValue)
  | [] => []
  | (k, x) :: fields => (k, ofJson int x) :: ofFields int fields

end

/-- The payload that was sent. -/
def sent (snapshot : Snapshot) : JsValue := ofJson exactInt snapshot.payload

/-- What `JSON.parse` makes of it. -/
def received (snapshot : Snapshot) : JsValue := ofJson parsedInt snapshot.payload

/-- `JSON.parse(text)`; `none` is a `SyntaxError`. -/
def jsonParse (text : List Char) : Option JsValue := (Json.read text).map (ofJson parsedInt)

/-! ## The reader -/

/-- `decoder.decode(value, { stream: true })` of bytes that are ASCII. -/
def decode (chunk : List UInt8) : List Char := chunk.map fun b => Char.ofNat b.toNat

/-- `frame.split("\n")`. -/
def lines : List Char → List (List Char)
  | [] => [[]]
  | c :: cs => if c = '\n' then [] :: lines cs else consHead c (lines cs)

/-- `find(item => item.startsWith("data: "))`. -/
def dataLine (frame : List Char) : Option (List Char) := (lines frame).find? fun line => "data: ".toList.isPrefixOf line

/-- What a frame gives `renderDetail`. -/
def renderFrame (frame : List Char) : Option (List JsValue) :=
  match dataLine frame with
  | none => some []
  | some line => (jsonParse (line.drop 6)).map fun x => [x]

structure Reader where
  buffer : List Char
  delivered : List JsValue

/-- One turn of the loop; `none` if a parse raises, which ends the stream. -/
def readChunk (r : Reader) (chunk : List UInt8) : Option Reader := do
  let frames := splitBlank (r.buffer ++ decode chunk)
  let delivered ← frames.dropLast.mapM renderFrame
  pure ⟨frames.getLastD [], r.delivered ++ delivered.flatten⟩

def startStream (chunks : List (List UInt8)) : Option Reader := chunks.foldlM readChunk ⟨[], []⟩

/-! ## The text of the stream -/

/-- A frame without the blank line that ends it. -/
def Message.frame : Message → List Char
  | incident snapshot => "event: incident\ndata: ".toList ++ (snapshot.payload.dumps Json.plain).toList
  | keepAlive => ": keep-alive".toList

theorem Message.toList_text (m : Message) : m.text.toList = m.frame ++ ['\n', '\n'] := by
  have happend : ∀ a b : String, (a ++ b ++ "\n\n").toList = a.toList ++ b.toList ++ ['\n', '\n'] := by
    intro a b
    rw [String.toList_append, String.toList_append]
    rfl
  cases m with
  | incident snapshot => exact happend _ _
  | keepAlive => rfl

theorem printable_dumps (x : Json) : Json.Printable (x.dumps Json.plain).toList := by
  rw [Json.toList_dumps Json.plain_spaced]
  exact Json.printable_text 1 1 x

theorem ne_break_of_printable {s : List Char} (h : Json.Printable s) : ∀ c ∈ s, c ≠ '\n' := by
  rintro c hc rfl
  have := (h _ hc).1
  revert this
  decide

theorem Message.ascii (m : Message) : ∀ c ∈ m.text.toList, c.toNat < 128 := by
  have hhead : ∀ c ∈ "event: incident\ndata: ".toList, c.toNat < 128 := Json.forall_of_all (by decide)
  have hkeep : ∀ c ∈ Message.keepAlive.frame, c.toNat < 128 := Json.forall_of_all (by decide)
  have hend : ∀ c ∈ ['\n', '\n'], c.toNat < 128 := Json.forall_of_all (by decide)
  intro c hc
  rw [m.toList_text] at hc
  rcases List.mem_append.mp hc with hc | hc
  · cases m with
    | incident snapshot =>
      rcases List.mem_append.mp hc with hc | hc
      · exact hhead c hc
      · have := printable_dumps snapshot.payload c hc
        omega
    | keepAlive => exact hkeep c hc
  · exact hend c hc

/-- The bytes of ASCII text decode to the text. -/
theorem decode_utf8 {text : List Char} (h : ∀ c ∈ text, c.toNat < 128) : decode (text.flatMap String.utf8EncodeChar) = text := by
  have hbyte : ∀ n < 128, (String.utf8EncodeChar (Char.ofNat n)).map (fun b => Char.ofNat b.toNat) = [Char.ofNat n] := by decide
  induction text with
  | nil => rfl
  | cons c text ih =>
    have hc := hbyte c.toNat (h c List.mem_cons_self)
    rw [Char.ofNat_toNat] at hc
    have hrest := ih fun x hx => h x (List.mem_cons_of_mem _ hx)
    unfold decode at hrest ⊢
    rw [List.flatMap_cons, List.map_append, hc, hrest]
    rfl

theorem decode_flatten (chunks : List (List UInt8)) : (chunks.map decode).flatten = decode chunks.flatten := by
  unfold decode
  rw [List.map_flatten]

/-- The stream splits into the frames that were written. -/
theorem splitBlank_text (m : Message) (rest : List Char) : splitBlank (m.text.toList ++ rest) = m.frame :: splitBlank rest := by
  have hblank := splitBlank_blank rest
  rw [m.toList_text, List.append_assoc]
  cases m with
  | keepAlive =>
    have h := splitBlank_line Message.keepAlive.frame (Json.forall_of_all (by decide)) hblank
    rw [List.append_nil] at h
    exact h
  | incident snapshot =>
    have hdata := splitBlank_line (snapshot.payload.dumps Json.plain).toList
      (ne_break_of_printable (printable_dumps _)) hblank
    have hhead := splitBlank_line "data: ".toList (Json.forall_of_all (by decide)) hdata
    have hbreak : splitBlank ('\n' :: ("data: ".toList ++ ((snapshot.payload.dumps Json.plain).toList ++ '\n' :: '\n' :: rest))) =
        consHead '\n' (splitBlank ("data: ".toList ++ ((snapshot.payload.dumps Json.plain).toList ++ '\n' :: '\n' :: rest))) :=
      splitBlank_break (d := 'd') (by decide) _
    rw [hhead] at hbreak
    have hevent := splitBlank_line "event: incident".toList (Json.forall_of_all (by decide)) hbreak
    rw [List.append_nil] at hevent
    exact hevent

theorem splitBlank_stream (messages : List Message) :
    splitBlank (messages.flatMap fun m => m.text.toList) = messages.map Message.frame ++ [[]] := by
  induction messages with
  | nil => rfl
  | cons m messages ih => rw [List.flatMap_cons, splitBlank_text, ih, List.map_cons, List.cons_append]

/-! ## A frame read back -/

theorem lines_cons {c : Char} (h : c ≠ '\n') (cs : List Char) : lines (c :: cs) = consHead c (lines cs) := by
  rw [lines, if_neg h]

theorem lines_line {line : List Char} (h : ∀ c ∈ line, c ≠ '\n') : lines line = [line] := by
  induction line with
  | nil => rfl
  | cons c line ih =>
    rw [lines_cons (h c List.mem_cons_self), ih fun x hx => h x (List.mem_cons_of_mem _ hx)]
    rfl

theorem lines_append (line : List Char) (h : ∀ c ∈ line, c ≠ '\n') (rest : List Char) :
    lines (line ++ '\n' :: rest) = line :: lines rest := by
  induction line with
  | nil => rfl
  | cons c line ih =>
    rw [List.cons_append, lines_cons (h c List.mem_cons_self), ih fun x hx => h x (List.mem_cons_of_mem _ hx)]
    rfl

/-- A snapshot's frame gives its payload, a comment nothing. -/
theorem renderFrame_frame (m : Message) : renderFrame m.frame = some (m.snapshot?.map received).toList := by
  cases m with
  | keepAlive => rfl
  | incident snapshot =>
    have hdata : ∀ c ∈ "data: ".toList ++ (snapshot.payload.dumps Json.plain).toList, c ≠ '\n' := by
      have hhead : ∀ c ∈ "data: ".toList, c ≠ '\n' := Json.forall_of_all (by decide)
      intro c hc
      rcases List.mem_append.mp hc with hc | hc
      · exact hhead c hc
      · exact ne_break_of_printable (printable_dumps _) c hc
    have hlines : lines (Message.incident snapshot).frame =
        ["event: incident".toList, "data: ".toList ++ (snapshot.payload.dumps Json.plain).toList] := by
      have := lines_append "event: incident".toList (Json.forall_of_all (by decide)) ("data: ".toList ++ (snapshot.payload.dumps Json.plain).toList)
      rw [lines_line hdata] at this
      exact this
    have hfind : dataLine (Message.incident snapshot).frame = some ("data: ".toList ++ (snapshot.payload.dumps Json.plain).toList) := by
      unfold dataLine
      rw [hlines]
      rfl
    have hparse : jsonParse (snapshot.payload.dumps Json.plain).toList = some (received snapshot) := by
      have hread : Json.read (snapshot.payload.dumps Json.plain).toList = some snapshot.payload :=
        Json.loads_dumps Json.plain_spaced snapshot.ok
      unfold jsonParse
      rw [hread]
      rfl
    have hdrop : ("data: ".toList ++ (snapshot.payload.dumps Json.plain).toList).drop 6 = (snapshot.payload.dumps Json.plain).toList := rfl
    unfold renderFrame
    rw [hfind]
    simp only [hdrop, hparse]
    rfl

/-! ## The whole stream -/

theorem decode_stream (messages : List Message) : decode (streamBytes messages) = messages.flatMap fun m => m.text.toList := by
  refine decode_utf8 fun c hc => ?_
  obtain ⟨m, -, hm⟩ := List.mem_flatMap.mp hc
  exact m.ascii c hm

/-- The loop renders the frames that come out of the chunks. -/
theorem foldlM_readChunk (chunks : List (List UInt8)) : ∀ (buffer : List Char) (delivered : List JsValue) (rendered : List (List JsValue)),
    (blankLines.feedAll buffer (chunks.map decode)).1.mapM renderFrame = some rendered →
    chunks.foldlM readChunk ⟨buffer, delivered⟩ =
      some ⟨(blankLines.feedAll buffer (chunks.map decode)).2, delivered ++ rendered.flatten⟩ := by
  induction chunks with
  | nil =>
    intro buffer delivered rendered h
    cases h
    simp [Splitter.feedAll]
  | cons chunk chunks ih =>
    intro buffer delivered rendered h
    have hfeed : blankLines.feedAll buffer ((chunk :: chunks).map decode) =
        ((blankLines.pop (buffer ++ decode chunk)).1 ++ (blankLines.feedAll (blankLines.pop (buffer ++ decode chunk)).2 (chunks.map decode)).1,
          (blankLines.feedAll (blankLines.pop (buffer ++ decode chunk)).2 (chunks.map decode)).2) := rfl
    rw [hfeed, List.mapM_append] at h
    obtain ⟨now, hnow, h⟩ := Option.bind_eq_some_iff.mp h
    obtain ⟨later, hlater, h⟩ := Option.bind_eq_some_iff.mp h
    obtain rfl : now ++ later = rendered := Option.some.inj h
    have hread : readChunk ⟨buffer, delivered⟩ chunk =
        some ⟨(blankLines.pop (buffer ++ decode chunk)).2, delivered ++ now.flatten⟩ := by
      have hnow : (splitBlank (buffer ++ decode chunk)).dropLast.mapM renderFrame = some now := hnow
      unfold readChunk
      simp only [hnow, Option.bind_eq_bind, Option.bind_some]
      rfl
    rw [List.foldlM_cons, hread, hfeed]
    simp only [Option.bind_eq_bind, Option.bind_some]
    rw [ih _ _ later hlater, List.flatten_append, List.append_assoc]

theorem payloads_flatten (messages : List Message) :
    (messages.map fun m => (m.snapshot?.map received).toList).flatten = (messages.filterMap Message.snapshot?).map received := by
  induction messages with
  | nil => rfl
  | cons m messages ih =>
    rw [List.map_cons, List.flatten_cons, ih]
    cases m <;> rfl

theorem startStream_eq {messages : List Message} {chunks : List (List UInt8)} (h : chunks.flatten = streamBytes messages) :
    startStream chunks = some ⟨[], (messages.filterMap Message.snapshot?).map received⟩ := by
  have hfeed : blankLines.feedAll [] (chunks.map decode) = (messages.map Message.frame, []) := by
    rw [blankLines.feedAll_eq _ [] rfl, List.nil_append, decode_flatten, h, decode_stream]
    have hsplit : blankLines.split (messages.flatMap fun m => m.text.toList) = messages.map Message.frame ++ [[]] :=
      splitBlank_stream messages
    simp [Splitter.pop, hsplit]
  have hrender : ∀ ms : List Message, (ms.map Message.frame).mapM renderFrame = some (ms.map fun m => (m.snapshot?.map received).toList) := by
    intro ms
    induction ms with
    | nil => rfl
    | cons m ms ih =>
      rw [List.map_cons, List.mapM_cons, renderFrame_frame, ih]
      rfl
  have hrun := foldlM_readChunk chunks [] [] (messages.map fun m => (m.snapshot?.map received).toList) (by rw [hfeed]; exact hrender messages)
  rw [hfeed, payloads_flatten] at hrun
  exact hrun

/-! ## Integers -/

mutual

def ints : Json → List Int
  | .int n => [n]
  | .arr xs => intsItems xs
  | .obj fields => intsFields fields
  | _ => []

def intsItems : List Json → List Int
  | [] => []
  | x :: xs => ints x ++ intsItems xs

def intsFields : List (String × Json) → List Int
  | [] => []
  | (_, x) :: fields => ints x ++ intsFields fields

end

/-- An integer that a JavaScript number can be. -/
def IsBinary64 (n : Int) : Prop := Binary64.nearest (n.natAbs : ℚ) = n.natAbs ∧ (n.natAbs : ℚ) < 2 ^ 1024

theorem parsedInt_eq_iff (n : Int) : parsedInt n = exactInt n ↔ IsBinary64 n := by
  unfold parsedInt exactInt ofLiteral IsBinary64
  split
  · rename_i hlt
    simp only [JsNumber.finite.injEq, true_and]
    exact ⟨fun h => ⟨h, h ▸ hlt⟩, fun h => h.1⟩
  · rename_i hge
    constructor
    · intro h
      cases h
    · intro h
      rw [h.1] at hge
      exact absurd h.2 hge

/-- Up to 2 ^ 53 every integer is one. -/
theorem isBinary64_of_le {n : Int} (h : n.natAbs ≤ 2 ^ 53) : IsBinary64 n := by
  have hlt : (n.natAbs : ℚ) < 2 ^ 1024 := by
    have : (n.natAbs : ℚ) ≤ 2 ^ 53 := by exact_mod_cast h
    exact lt_of_le_of_lt this (pow_lt_pow_right₀ (by norm_num) (by norm_num))
  refine ⟨?_, hlt⟩
  by_cases hmax : n.natAbs = 2 ^ 53
  · rw [hmax]
    have h := Binary64.nearest_exact (m := 1) (k := 53) (by norm_num) (by norm_num)
    norm_num at h ⊢
    exact h
  · have h := Binary64.nearest_intCast (n := (n.natAbs : ℤ)) (by rw [abs_of_nonneg (by positivity)]; omega)
    simpa using h

theorem ofItems_eq_iff (xs : List Json) (ih : ∀ x ∈ xs, ofJson parsedInt x = ofJson exactInt x ↔ ∀ n ∈ ints x, IsBinary64 n) :
    ofItems parsedInt xs = ofItems exactInt xs ↔ ∀ n ∈ intsItems xs, IsBinary64 n := by
  induction xs with
  | nil => simp [ofItems, intsItems]
  | cons x xs hxs =>
    have hx := ih x List.mem_cons_self
    have hrest := hxs fun y hy => ih y (List.mem_cons_of_mem _ hy)
    simp only [ofItems, intsItems, List.cons.injEq, List.mem_append, hx, hrest]
    exact ⟨fun h n hn => hn.elim (h.1 n) (h.2 n), fun h => ⟨fun n hn => h n (.inl hn), fun n hn => h n (.inr hn)⟩⟩

theorem ofFields_eq_iff (fields : List (String × Json))
    (ih : ∀ f ∈ fields, ofJson parsedInt f.2 = ofJson exactInt f.2 ↔ ∀ n ∈ ints f.2, IsBinary64 n) :
    ofFields parsedInt fields = ofFields exactInt fields ↔ ∀ n ∈ intsFields fields, IsBinary64 n := by
  induction fields with
  | nil => simp [ofFields, intsFields]
  | cons f fields hfields =>
    have hf := ih f List.mem_cons_self
    have hrest := hfields fun g hg => ih g (List.mem_cons_of_mem _ hg)
    simp only [ofFields, intsFields, List.cons.injEq, Prod.mk.injEq, true_and, List.mem_append, hf, hrest]
    exact ⟨fun h n hn => hn.elim (h.1 n) (h.2 n), fun h => ⟨fun n hn => h n (.inl hn), fun n hn => h n (.inr hn)⟩⟩

/-- A value arrives as it was sent exactly when its integers can. -/
theorem ofJson_eq_iff (x : Json) : ofJson parsedInt x = ofJson exactInt x ↔ ∀ n ∈ ints x, IsBinary64 n := by
  induction x using Json.induction with
  | null => simp [ofJson, ints]
  | bool b => simp [ofJson, ints]
  | int n => simp [ofJson, ints, parsedInt_eq_iff]
  | float d => simp [ofJson, ints]
  | str s => simp [ofJson, ints]
  | arr xs ih => simpa [ofJson, ints] using ofItems_eq_iff xs ih
  | obj fields ih => simpa [ofJson, ints] using ofFields_eq_iff fields ih

theorem received_eq_iff (snapshots : List Snapshot) :
    snapshots.map received = snapshots.map sent ↔ ∀ s ∈ snapshots, ∀ n ∈ ints s.payload, IsBinary64 n := by
  rw [List.map_inj_left]
  exact forall₂_congr fun s _ => ofJson_eq_iff s.payload

/-- However the response is cut, each payload is delivered once, in order, with its integers
    rounded to binary64. -/
theorem stream_delivers {messages : List Message} {chunks : List (List UInt8)} (h : chunks.flatten = streamBytes messages) :
    startStream chunks = some ⟨[], (messages.filterMap Message.snapshot?).map received⟩ ∧
    (startStream chunks = some ⟨[], (messages.filterMap Message.snapshot?).map sent⟩ ↔
      ∀ s ∈ messages.filterMap Message.snapshot?, ∀ n ∈ ints s.payload, IsBinary64 n) ∧
    ((∀ s ∈ messages.filterMap Message.snapshot?, ∀ n ∈ ints s.payload, n.natAbs ≤ 2 ^ 53) →
      startStream chunks = some ⟨[], (messages.filterMap Message.snapshot?).map sent⟩) := by
  have hrun := startStream_eq h
  have hiff : startStream chunks = some ⟨[], (messages.filterMap Message.snapshot?).map sent⟩ ↔
      ∀ s ∈ messages.filterMap Message.snapshot?, ∀ n ∈ ints s.payload, IsBinary64 n := by
    rw [hrun, ← received_eq_iff]
    simp
  exact ⟨hrun, hiff, fun hsafe => hiff.mpr fun s hs n hn => isBinary64_of_le (hsafe s hs n hn)⟩

def quietSnapshot : Snapshot where
  payload := .obj [("state", .obj [("goal", .str "say \"hi\"\n\n→ 😀"), ("version", .int 3)]), ("events", .arr [])]
  ok := by simp [Json.WellFormed, Json.WellFormedItems, Json.WellFormedFields, Dict.keys]

/-- A response cut within a snapshot. -/
theorem stream_delivers_cut :
    startStream [(streamBytes [.keepAlive, .incident quietSnapshot]).take 60, (streamBytes [.keepAlive, .incident quietSnapshot]).drop 60] =
      some ⟨[], [sent quietSnapshot]⟩ :=
  (@stream_delivers [.keepAlive, .incident quietSnapshot] _ (by simp)).2.2 (by
    intro s hs n hn
    obtain rfl : s = quietSnapshot := List.mem_singleton.mp hs
    simp [quietSnapshot, ints, intsFields, intsItems] at hn
    subst hn
    decide)

/-- A count that is no JavaScript number. -/
def countSnapshot : Snapshot where
  payload := .obj [("state", .obj [("evidence", .obj [("query_logs", .obj [("count", .int 18014398509481985)])])]), ("events", .arr [])]
  ok := by simp [Json.WellFormed, Json.WellFormedItems, Json.WellFormedFields, Dict.keys]

theorem count_rounded : startStream [streamBytes [.incident countSnapshot]] ≠ some ⟨[], [sent countSnapshot]⟩ := by
  have hrun : startStream [streamBytes [.incident countSnapshot]] = some ⟨[], [received countSnapshot]⟩ :=
    @startStream_eq [.incident countSnapshot] _ (by simp)
  intro e
  rw [hrun] at e
  have hsame : received countSnapshot = sent countSnapshot := by simpa using e
  have hint : IsBinary64 18014398509481985 := (ofJson_eq_iff countSnapshot.payload).mp hsame _ (by
    simp [countSnapshot, ints, intsFields, intsItems])
  have hrounded : Binary64.nearest 18014398509481985 = (2 ^ 52 : ℤ) * 2 ^ ((54 : ℤ) - 52) :=
    Binary64.nearest_eq (k := 54) (by norm_num) (by norm_num) (by norm_num) (by norm_num [abs_lt])
  have hexact : Binary64.nearest ((18014398509481985 : ℤ).natAbs : ℚ) = ((18014398509481985 : ℤ).natAbs : ℚ) := hint.1
  have hcast : ((18014398509481985 : ℤ).natAbs : ℚ) = 18014398509481985 := by norm_num
  rw [hcast, hrounded] at hexact
  norm_num at hexact

end AgentResilience.Sse
