import Notebase.Proofs.Session.Delivery

/-!
What one call of the client of the generation service comes to, whatever reads the bodies of the
answers. It posts one request and goes by the answer alone, which ends in a document, in a refusal
that says why there is none, or in a breakdown (`call_settles`). A call breaks down exactly if the
reader does, and there it does so whatever the status is: a reader with a stack of its own breaks
down over a failure whose body nests too many lists (`nested_failure_breaks_down`).
-/

namespace Notebase

/-! ### Values that say something -/

theorem Text.ofNat_ne_nil (n : Nat) : Text.ofNat n ≠ [] := by
  intro none
  have digits : 0 < (Nat.toDigits 10 n).length := Nat.length_toDigits_pos
  rw [Text.ofNat] at none
  rw [none] at digits
  exact Nat.lt_irrefl 0 digits

theorem Text.ofInt_ne_nil (n : Int) : Text.ofInt n ≠ [] := by
  cases n with
  | ofNat n => exact Text.ofNat_ne_nil n
  | negSucc n => exact List.cons_ne_nil _ _

/-- A decimal number is written with at least one character. -/
theorem Number.Decimal.text_ne_nil (d : Decimal) : d.text ≠ [] := by
  unfold text
  dsimp only
  split
  · split
    · simp
    · split
      · simp
      · simp
  · simp

/-- So is every number with a point, a finite one or not. -/
theorem Number.text_ne_nil (x : Float) : text x ≠ [] := by
  unfold text
  split
  · decide
  · split <;> decide
  · dsimp only
    split
    · exact List.cons_ne_nil _ _
    · split
      · decide
      · exact Decimal.text_ne_nil _

/-- A value that counts as present is shown as something. -/
theorem Json.display_ne_nil {j : Json} (present : j.isPresent = true) : j.display ≠ [] := by
  cases j with
  | null => cases present
  | bool b => cases b <;> decide
  | int n => exact Text.ofInt_ne_nil n
  | float x => exact Number.text_ne_nil x
  | str t =>
      rw [isPresent, Bool.not_eq_true', List.isEmpty_eq_false_iff] at present
      exact present
  | arr items => exact List.cons_ne_nil _ _
  | obj members => exact List.cons_ne_nil _ _

theorem Text.trimmed_stripFence (t : Text) : t.stripFence.Trimmed := by
  unfold stripFence
  dsimp only
  split
  · exact trimmed_trim t
  · exact trimmed_trim _

namespace Service

/-! ### What comes back -/

section Reader

variable {β : Type} (read : β → Except Fault Json)

/-- What a body says under a key: it is an object, and the value there is present. -/
def Says (key : Text) (body : β) (j : Json) : Prop :=
  ∃ members, read body = .ok (.obj members) ∧ Dict.get? key members = some j ∧ j.isPresent = true

/-- A status that reports no failure comes with a document, which is what is shown of the value in
the body without a fence around it. -/
def Delivers (x : Outcome β) (d : Text) : Prop :=
  ∃ status body j, x = .answered status body ∧ ¬ (400 ≤ status ∧ status < 600) ∧
    Says read "document".toList body j ∧ j.display.stripFence = d ∧ d ≠ []

/-- A status that reports a failure comes with an error. -/
def Reports (x : Outcome β) (j : Json) : Prop :=
  ∃ status body, x = .answered status body ∧ (400 ≤ status ∧ status < 600) ∧
    Says read "error".toList body j

/-- The reader breaks down over the body of an answer. -/
def BreaksDown (x : Outcome β) (message : Text) : Prop :=
  ∃ status body, x = .answered status body ∧ read body = .error (.breakdown message)

end Reader

theorem isFailure_iff {status : Int} :
    isFailure status = true ↔ 400 ≤ status ∧ status < 600 := by
  rw [isFailure, Bool.and_eq_true, decide_eq_true_iff, decide_eq_true_iff]

/-- What an object says under a key is what is shown of a present value there. -/
theorem said?_eq_some_iff {key t : Text} {value : Json} : said? key value = some t ↔
    ∃ members j, value = .obj members ∧ Dict.get? key members = some j ∧ j.isPresent = true ∧
      j.display = t := by
  cases value with
  | obj members =>
      rw [said?, Json.get?]
      cases found : Dict.get? key members with
      | none =>
          constructor
          · intro none
            cases none
          · rintro ⟨members', j, same, found', -⟩
            cases same
            cases found.symm.trans found'
      | some j =>
          dsimp only
          split
          · next present =>
              constructor
              · intro shown
                exact ⟨members, j, rfl, found, present, Option.some.inj shown⟩
              · rintro ⟨members', j', same, found', -, rfl⟩
                cases same
                cases found.symm.trans found'
                rfl
          · next absent =>
              constructor
              · intro none
                cases none
              · rintro ⟨members', j', same, found', present, -⟩
                cases same
                cases found.symm.trans found'
                exact absurd present absent
  | null | bool | int | float | str | arr =>
      constructor
      · intro none
        cases none
      · rintro ⟨members, j, same, -⟩
        cases same

/-- A body holds the document that it says, without a fence around it. -/
theorem held_eq_ok_iff {value : Json} {d : Text} : held value = .ok d ↔
    ∃ t, said? "document".toList value = some t ∧ t.stripFence = d ∧ d ≠ [] := by
  rw [held]
  cases said : said? "document".toList value with
  | none =>
      rw [Option.getD_none]
      constructor
      · intro none
        cases none
      · rintro ⟨t, none, -⟩
        cases none
  | some t =>
      rw [Option.getD_some]
      cases stripped : t.stripFence with
      | nil =>
          constructor
          · intro none
            cases none
          · rintro ⟨t', same, rfl, written⟩
            cases same
            exact absurd stripped written
      | cons c rest =>
          constructor
          · intro accepted
            cases accepted
            exact ⟨t, rfl, stripped, List.cons_ne_nil _ _⟩
          · rintro ⟨t', same, rfl, -⟩
            cases same
            rw [stripped]

theorem held_ne_breakdown {value : Json} {m : Text} : held value ≠ .error (.breakdown m) := by
  unfold held
  split
  · intro broken
    cases broken
  · intro broken
    cases broken

theorem reported_ne_breakdown {status : Int} {value : Option Json} {m : Text} :
    reported status value ≠ .breakdown m := by
  unfold reported
  split
  · intro broken
    cases broken
  · intro broken
    cases broken

section Documents

variable {β : Type} {read : β → Except Fault Json} {x : Outcome β}

/-- **A document** comes back exactly if the answer delivers it. -/
theorem documentBy_eq_ok_iff {d : Text} : documentBy read x = .ok d ↔ Delivers read x d := by
  unfold documentBy
  split
  · constructor
    · intro none
      cases none
    · rintro ⟨_, _, _, none, -⟩
      cases none
  · next status body =>
      have iff_ : (∃ value, isFailure status = false ∧ read body = .ok value ∧
          held value = .ok d) ↔ Delivers read (.answered status body) d := by
        constructor
        · rintro ⟨value, success, read_, held_⟩
          obtain ⟨t, said, stripped, written⟩ := held_eq_ok_iff.mp held_
          obtain ⟨members, j, rfl, found, present, rfl⟩ := said?_eq_some_iff.mp said
          refine ⟨status, body, j, rfl, ?_, ⟨members, read_, found, present⟩, stripped, written⟩
          rw [← isFailure_iff, success]
          exact Bool.false_ne_true
        · rintro ⟨_, _, j, same, success, ⟨members, read_, found, present⟩, stripped, written⟩
          cases same
          refine ⟨.obj members, ?_, read_, held_eq_ok_iff.mpr ⟨j.display, ?_, stripped, written⟩⟩
          · rwa [← isFailure_iff, Bool.not_eq_true] at success
          · exact said?_eq_some_iff.mpr ⟨members, j, rfl, found, present, rfl⟩
      rw [← iff_]
      cases read_ : read body with
      | error fault => cases fault <;> simp
      | ok value =>
          cases status_ : isFailure status with
          | true => simp
          | false => simp

/-- **A breakdown** comes back exactly if the reader breaks down. -/
theorem documentBy_eq_breakdown_iff {m : Text} :
    documentBy read x = .error (.breakdown m) ↔ BreaksDown read x m := by
  unfold documentBy
  split
  · constructor
    · intro none
      cases none
    · rintro ⟨_, _, none, -⟩
      cases none
  · next status body =>
      have iff_ : read body = .error (.breakdown m) ↔ BreaksDown read (.answered status body) m := by
        constructor
        · exact fun broken => ⟨status, body, rfl, broken⟩
        · rintro ⟨_, _, same, broken⟩
          cases same
          exact broken
      rw [← iff_]
      cases read_ : read body with
      | error fault =>
          cases fault with
          | malformed =>
              dsimp only
              split
              · simp [reported_ne_breakdown]
              · simp
          | breakdown message => simp
      | ok value =>
          dsimp only
          split
          · simp [reported_ne_breakdown]
          · simp [held_ne_breakdown]

/-- **An error** that an answer reports is the reason why there is no document. -/
theorem documentBy_of_reports {j : Json} (reports : Reports read x j) :
    documentBy read x = .error (.reported j.display) := by
  obtain ⟨status, body, rfl, failure, members, read_, found, present⟩ := reports
  have said : said? "error".toList (.obj members) = some j.display :=
    said?_eq_some_iff.mpr ⟨members, j, rfl, found, present, rfl⟩
  rw [documentBy, read_]
  dsimp only
  rw [if_pos (isFailure_iff.mpr failure), reported, Option.bind_some, said]

end Documents

/-- A reported failure always has a message. -/
theorem reported_message_ne_nil (status : Int) (value : Option Json) :
    (reported status value).message ≠ [] := by
  unfold reported
  split
  · next message said =>
      obtain ⟨value, -, said⟩ := Option.bind_eq_some_iff.mp said
      obtain ⟨members, j, -, -, present, rfl⟩ := said?_eq_some_iff.mp said
      exact Json.display_ne_nil present
  · exact List.append_ne_nil_of_right_ne_nil _ (List.cons_ne_nil _ _)

theorem held_message_ne_nil {value : Json} {e : Error} (refused : held value = .error e) :
    e.message ≠ [] := by
  unfold held at refused
  split at refused
  · cases refused
    exact List.cons_ne_nil _ _
  · cases refused

/-- **Every reason** why there is no document says something, unless it is a breakdown. -/
theorem message_ne_nil {β : Type} {read : β → Except Fault Json} {x : Outcome β} {e : Error}
    (refused : documentBy read x = .error e) (worded : e.isRefusal = true) : e.message ≠ [] := by
  unfold documentBy at refused
  split at refused
  · cases refused
    exact List.cons_ne_nil _ _
  · split at refused
    · cases refused
      cases worded
    · split at refused
      · cases refused
        exact reported_message_ne_nil _ _
      · cases refused
        exact List.cons_ne_nil _ _
    · split at refused
      · cases refused
        exact reported_message_ne_nil _ _
      · exact held_message_ne_nil refused

/-! ### Calls -/

section Calls

variable {β σ : Type} (read : β → Except Fault Json)

/-- What a call comes to after its post. -/
def reply (x : Outcome β) : Reply :=
  match documentBy read x with
  | .ok t => .text (some t)
  | .error e => if e.isRefusal then .refusal e.message else .breakdown e.message

/-- **One call** posts its payload, and what comes back alone decides what the call comes to. -/
theorem generatorBy_eq (post : σ → Payload → Outcome β × σ) (g : σ) (instruction : Text)
    (document : Option Text) : generatorBy read post g instruction document =
      (reply read (post g (payload instruction document)).1,
        (post g (payload instruction document)).2) := by
  rw [generatorBy, reply]
  rcases post g (payload instruction document) with ⟨x, g'⟩
  dsimp only
  cases documentBy read x with
  | ok t => rfl
  | error e => rfl

def logged (post : σ → Payload → Outcome β × σ) (state : List Payload × σ) (p : Payload) :
    Outcome β × List Payload × σ :=
  ((post state.2 p).1, state.1 ++ [p], (post state.2 p).2)

end Calls

/-- The current document is posted exactly if there is one that is not empty. -/
theorem get?_body_payload {instruction : Text} {document : Option Text} {j : Json} :
    (payload instruction document).body.get? "currentDocument".toList = some j ↔
      ∃ t, document = some t ∧ t ≠ [] ∧ j = .str t := by
  rcases document with - | ⟨- | ⟨c, t⟩⟩
  · constructor
    · intro none
      cases none
    · rintro ⟨t, none, -⟩
      cases none
  · constructor
    · intro none
      cases none
    · rintro ⟨t, same, written, -⟩
      cases same
      exact absurd rfl written
  · constructor
    · intro found
      cases found
      exact ⟨c :: t, rfl, List.cons_ne_nil c t, rfl⟩
    · rintro ⟨t', same, -, rfl⟩
      cases same
      rfl

section Reply

variable {β : Type} {read : β → Except Fault Json} {x : Outcome β} {t : Option Text} {m : Text}

theorem reply_eq_text_iff : reply read x = .text t ↔ ∃ d, t = some d ∧ Delivers read x d := by
  simp only [← documentBy_eq_ok_iff]
  rw [reply]
  cases documentBy read x with
  | ok d => simp [eq_comm]
  | error e =>
      dsimp only
      split <;> simp

/-- A call breaks down exactly if the reader does. -/
theorem reply_eq_breakdown_iff : reply read x = .breakdown m ↔ BreaksDown read x m := by
  rw [← documentBy_eq_breakdown_iff, reply]
  cases documentBy read x with
  | ok d => simp
  | error e =>
      cases e with
      | breakdown message =>
          have message_ : (Error.breakdown message).message = message := rfl
          simp [Error.isRefusal, message_]
      | unreachable | reported | status | invalidJson | emptyDocument => simp [Error.isRefusal]

/-- A refusal always has a message. -/
theorem ne_nil_of_reply_eq_refusal (refused : reply read x = .refusal m) : m ≠ [] := by
  rw [reply] at refused
  split at refused
  · cases refused
  · next e refused_ =>
      split at refused
      · next worded =>
          cases refused
          exact message_ne_nil refused_ worded
      · cases refused

theorem Delivers.written {d : Text} (delivers : Delivers read x d) : d.Written := by
  obtain ⟨_, _, j, -, -, -, rfl, written⟩ := delivers
  exact ⟨written, Text.trimmed_stripFence _⟩

end Reply

/-- **What a call comes to**, whatever reads the bodies. It posts its payload and nothing else, with
the current document exactly if that is written. It returns the document of an answer that delivers
one, which has no blanks around it, and otherwise refuses with a message: the error of the service
where a failure reports one. Only where the reader breaks down over the body does the call break
down as well. -/
theorem call_settles {β σ : Type} (read : β → Except Fault Json)
    (post : σ → Payload → Outcome β × σ) (g : σ) (instruction : Text) (document : Option Text) :
    let p := payload instruction document
    let x := (post g p).1
    let called := generatorBy read post g instruction document
    (∀ log, generatorBy read (logged post) (log, g) instruction document =
      (called.1, log ++ [p], called.2)) ∧
    (∀ j, p.body.get? "currentDocument".toList = some j ↔
      ∃ t, document = some t ∧ t ≠ [] ∧ j = .str t) ∧
    (∀ t, called.1 = .text t ↔ ∃ d, t = some d ∧ Delivers read x d) ∧
    (∀ d, Delivers read x d → d.Written) ∧
    (∀ m, called.1 = .refusal m → m ≠ []) ∧
    (∀ j, Reports read x j → called.1 = .refusal j.display) ∧
    ∀ m, called.1 = .breakdown m ↔ BreaksDown read x m := by
  intro p x called
  have called_ : called = (reply read x, (post g p).2) :=
    generatorBy_eq read post g instruction document
  have answered : called.1 = reply read x := congrArg Prod.fst called_
  refine ⟨fun log => ?_, fun j => get?_body_payload, fun t => ?_, fun d => Delivers.written,
    fun m => ?_, fun j reports => ?_, fun m => ?_⟩
  · rw [generatorBy_eq, called_]
    rfl
  · rw [answered]
    exact reply_eq_text_iff
  · rw [answered]
    exact ne_nil_of_reply_eq_refusal
  · rw [answered, reply, documentBy_of_reports reports]
    rfl
  · rw [answered]
    exact reply_eq_breakdown_iff

/-- A success delivers the document inside a fence, and a failure reports an error that is no
text. -/
theorem fenced_document_is_delivered :
    let reply : Text := " ```yaml\nviews: []\n```".toList
    let success := Json.line (.obj [("document".toList, .str reply)])
    let failure := "\x7b\"error\":[1]\x7d".toList
    let post : Int × Text → Payload → Exchange × Int × Text := fun g _ => (.answered g.1 g.2, g)
    (generatorBy readBody post (200, success) "x".toList none).1 =
        .text (some "views: []".toList) ∧
      (generatorBy readBody post (503, failure) "x".toList none).1 = .refusal "[1]".toList := by
  intro reply success failure post
  have shown : reply.stripFence = "views: []".toList := by decide
  have delivers : Delivers readBody (.answered 200 success) "views: []".toList :=
    ⟨200, success, .str reply, rfl, by decide, ⟨_, by rfl, rfl, rfl⟩, shown, by decide⟩
  have chars : failure = ['\x7b', '"', 'e', 'r', 'r', 'o', 'r', '"', ':', '[', '1', ']', '\x7d'] :=
    rfl
  have reports : Reports readBody (.answered 503 failure) (.arr [.int 1]) := by
    refine ⟨503, failure, rfl, by decide, [("error".toList, .arr [.int 1])], ?_, rfl, rfl⟩
    rw [chars]
    rfl
  obtain ⟨-, -, text, -⟩ := call_settles readBody post (200, success) "x".toList none
  obtain ⟨-, -, -, -, -, refusal, -⟩ := call_settles readBody post (503, failure) "x".toList none
  exact ⟨(text _).mpr ⟨_, rfl, delivers⟩, refusal _ reports⟩

/-! ### A reader that breaks down -/

/-- One more opening bracket than may be open is refused where it stands. -/
theorem parseValue_of_brackets (depth fuel : Nat) (enough : 2 * depth < fuel) (t : Text) :
    Json.parseValue fuel depth (List.replicate (depth + 1) '[' ++ t) =
      .error (.tooDeep .array) := by
  induction depth generalizing fuel with
  | zero =>
      cases fuel with
      | zero => omega
      | succ fuel => rfl
  | succ depth ih =>
      obtain ⟨fuel, rfl⟩ : ∃ n, fuel = n + 2 := ⟨fuel - 2, by omega⟩
      have inner := ih fuel (by omega)
      rw [List.replicate_succ, List.cons_append] at inner
      have items : Json.parseItems (fuel + 1) depth ('[' :: (List.replicate depth '[' ++ t)) =
          .error (.tooDeep .array) := by
        rw [Json.parseItems, inner]
        rfl
      rw [List.replicate_succ, List.cons_append, Json.parseValue]
      exact congrArg (Except.map _) items

/-- **A text of opening brackets**, one more than may be open at once, is too deep for the reader
whatever follows. -/
theorem readWithin_of_brackets (depth : Nat) (t : Text) :
    Json.readWithin depth (List.replicate (depth + 1) '[' ++ t) = .error (.tooDeep .array) := by
  have skip : Json.skipBlanks (List.replicate (depth + 1) '[' ++ t) =
      List.replicate (depth + 1) '[' ++ t := by
    rw [List.replicate_succ, List.cons_append]
    rfl
  rw [Json.readWithin, skip, parseValue_of_brackets depth _ _ t]
  · rfl
  · rw [List.length_append, List.length_replicate]
    omega

/-- The body of a failure that nests a thousand lists is not read, and the call breaks down where it
ought to refuse. -/
theorem nested_failure_breaks_down :
    let body := List.replicate 1000 '[' ++ List.replicate 1000 ']'
    let post : Unit → Payload → Exchange × Unit := fun g _ => (.answered 500 body, g)
    (generator post () "x".toList none).1 =
      .breakdown ("maximum recursion depth exceeded while decoding a JSON array from a " ++
        "unicode string").toList := by
  intro body post
  have body_ : body = List.replicate (Json.maxDepth + 1) '[' ++
      (List.replicate 11 '[' ++ List.replicate 1000 ']') := by
    rw [← List.append_assoc, List.replicate_append_replicate]
    rfl
  have ascii : Json.document body = body := rfl
  have deep : Json.read body = .error (.tooDeep .array) := by
    rw [body_, Json.read, readWithin_of_brackets]
  have broken : documentBy readBody (.answered 500 body) = .error (.breakdown
      ("maximum recursion depth exceeded while decoding a JSON array from a " ++
        "unicode string").toList) := by
    refine documentBy_eq_breakdown_iff.mpr ⟨500, body, rfl, ?_⟩
    rw [readBody, ascii, deep]
    rfl
  rw [generator, generatorBy_eq, reply, broken]
  rfl

end Service

end Notebase
