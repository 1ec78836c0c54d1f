import StatusLookup.Failure
import StatusLookup.Proofs.Text.Quoted

/-!
# What a message tells

An error of a lookup carries one text from outside, which its message shows behind an opening of its
own. No opening begins like another one and goes on, so the opening tells what kind of error it is;
and what the message goes on with tells the text, because a quoted text ends where its quote closes.

A text that is not the store's own words is shown in quotes. Such a message is one line, whatever a
caller asks for or a record holds.
-/

namespace StatusLookup.LookupError

/-- The kinds of errors that a message tells apart. -/
inductive Kind where
  | unavailable
  | invalidKey
  | io
  | notFound
  | invalidStatus
  deriving DecidableEq

def kind : LookupError → Kind
  | store (.unavailable _) => .unavailable
  | store (.invalidKey _) => .invalidKey
  | store (.io _) => .io
  | notFound _ => .notFound
  | invalidStatus _ => .invalidStatus

/-- The text from outside that an error carries: the words of the store or of the system, the key,
the deployment or the record. -/
def payload : LookupError → String
  | store (.unavailable reason) => reason
  | store (.invalidKey key) => key
  | store (.io e) => e.message
  | notFound deployment => deployment
  | invalidStatus e => e.raw

def Kind.opening : Kind → String
  | unavailable => "deployment status read failed: store unavailable: "
  | invalidKey => "deployment status read failed: invalid store key "
  | io => "deployment status read failed: store I/O error: "
  | notFound => "deployment with id "
  | invalidStatus => "invalid deployment status "

def Kind.remainder : Kind → String → String
  | unavailable, text => text
  | invalidKey, text => Text.quoted text
  | io, text => text
  | notFound, text => Text.quoted text ++ " not found"
  | invalidStatus, text => Text.quoted text

theorem message_eq (e : LookupError) :
    e.message = e.kind.opening ++ e.kind.remainder e.payload := by
  have joined (front middle back : String) : front ++ (middle ++ back) = front ++ middle ++ back :=
    String.append_assoc.symm
  cases e with
  | store e => cases e <;> exact joined _ _ _
  | notFound deployment => exact String.append_assoc
  | invalidStatus e => rfl

/-! ## The cause is known from the message -/

theorem Kind.eq_of_isPrefix {k k' : Kind} (begins : k.opening.toList <+: k'.opening.toList) :
    k = k' := by
  cases k <;> cases k' <;> first | rfl | simp [opening] at begins

theorem Kind.opening_append_inj {k k' : Kind} {text text' : String}
    (same : k.opening ++ text = k'.opening ++ text') : k = k' ∧ text = text' := by
  have spelled : k.opening.toList ++ text.toList = k'.opening.toList ++ text'.toList := by
    rw [← String.toList_append, same, String.toList_append]
  -- Both openings begin one text, so one of them begins the other.
  have front : k = k' := by
    have begins : k.opening.toList <+: k'.opening.toList ++ text'.toList :=
      ⟨text.toList, spelled⟩
    rcases List.prefix_or_prefix_of_prefix begins (List.prefix_append _ _) with first | second
    · exact eq_of_isPrefix first
    · exact (eq_of_isPrefix second).symm
  subst front
  exact ⟨rfl, String.toList_inj.mp (List.append_cancel_left spelled)⟩

theorem Kind.remainder_inj (k : Kind) {text text' : String}
    (same : k.remainder text = k.remainder text') : text = text' := by
  cases k with
  | unavailable => exact same
  | invalidKey => exact Text.quoted_injective same
  | io => exact same
  | notFound => exact (Text.quoted_append_inj same).1
  | invalidStatus => exact Text.quoted_injective same

theorem message_eq_message_iff {e e' : LookupError} :
    e.message = e'.message ↔ e.kind = e'.kind ∧ e.payload = e'.payload := by
  rw [message_eq, message_eq]
  constructor
  · intro same
    obtain ⟨kind, remainder⟩ := Kind.opening_append_inj same
    rw [kind] at remainder
    exact ⟨kind, e'.kind.remainder_inj remainder⟩
  · rintro ⟨kind, payload⟩
    rw [kind, payload]

/-! ## A message with a quoted text is one line -/

theorem Kind.isOneLine_opening (k : Kind) : Text.IsOneLine k.opening := by
  cases k <;> exact Text.isOneLine_of_ascii (by decide +kernel)

theorem isOneLine_message {e : LookupError} (reached : e.kind ≠ .unavailable)
    (readable : e.kind ≠ .io) : Text.IsOneLine e.message := by
  rw [message_eq]
  refine (Kind.isOneLine_opening e.kind).append ?_
  cases kind : e.kind with
  | unavailable => exact absurd kind reached
  | invalidKey => exact Text.isOneLine_quoted e.payload
  | io => exact absurd kind readable
  | notFound =>
      exact (Text.isOneLine_quoted e.payload).append (Text.isOneLine_of_ascii (by decide +kernel))
  | invalidStatus => exact Text.isOneLine_quoted e.payload

/-- Two errors have the same message only if they are of one kind and carry the same text; a message
that quotes its text is one line, whatever the text holds; and a command that fails of such an error
says the same. -/
theorem message_identifies_cause :
    (∀ e e' : LookupError,
      e.message = e'.message ↔ e.kind = e'.kind ∧ e.payload = e'.payload) ∧
      (∀ deployment, Text.IsOneLine (notFound deployment).message) ∧
      (∀ e, Text.IsOneLine (invalidStatus e).message) ∧
      (∀ key, Text.IsOneLine (store (.invalidKey key)).message) ∧
      (∀ e, (Failure.lookup e).message = e.message) ∧
      ∀ e : InvalidStatus, (Failure.invalidStatus e).message = e.message := by
  refine ⟨fun e e' => message_eq_message_iff, fun deployment => ?_, fun e => ?_, fun key => ?_,
    fun e => rfl, fun e => rfl⟩
  · exact isOneLine_message nofun nofun
  · exact isOneLine_message nofun nofun
  · exact isOneLine_message nofun nofun

/-- What a caller asked for is shown on the line of the message. -/
example : (notFound "web\n\u2028").message =
    "deployment with id \"web\\n\\u\x7b2028\x7d\" not found" := by
  decide +kernel

end StatusLookup.LookupError
