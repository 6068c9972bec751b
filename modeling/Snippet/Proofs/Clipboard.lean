import Snippet.Clipboard

/-! Which tools are asked to take a text, and what comes of it.

Tools are asked in order, and the first that takes the text is the last that is asked. What
failed on the way is forgotten when a tool succeeds, and only when one does: a tool that is
not there or not found leaves the last failure as it was.
-/

set_option autoImplicit false

namespace Snippet.Clipboard

/-! ## What the answers of the tools say -/

namespace Scripted

def takes (tool : Scripted) : Bool := tool.available && tool.answer == .done

/-- How the tool fails. One that is not available or not found does not. -/
def failure? (tool : Scripted) : Option CopyError :=
  match tool.available, tool.answer with
  | true, .failed message => some (.toolFailed tool.tool message)
  | _, _ => none

def calls (text : Text) (tool : Scripted) : List Call :=
  .probe tool.tool :: if tool.available then [.copy tool.tool text] else []

end Scripted

/-- The tools that are asked: the first that takes the text, and all in front of it. -/
def asked (tools : List Scripted) : List Scripted :=
  tools.takeWhile (!·.takes) ++ (tools.find? Scripted.takes).toList

/-- The report of the first tool that takes the text, or else the last failure. -/
def outcome (text : Text) (tools : List Scripted) (failure : CopyError) :
    Except CopyError CopyReport :=
  match tools.find? Scripted.takes with
  | some tool => .ok ⟨tool.tool, (String.ofList text).utf8ByteSize⟩
  | none => .error ((tools.reverse.findSome? Scripted.failure?).getD failure)

variable {text : Text} {tool : Scripted} {tools : List Scripted} {failure : CopyError}
  {seen : List Call}

/-! ## One tool -/

theorem asked_of_takes (takes : tool.takes) (others : List Scripted) :
    asked (tool :: others) = [tool] := by
  simp [asked, takes]

theorem asked_of_passes (passes : tool.takes = false) (others : List Scripted) :
    asked (tool :: others) = tool :: asked others := by
  simp [asked, passes]

theorem outcome_of_takes (takes : tool.takes) (others : List Scripted) :
    outcome text (tool :: others) failure =
      .ok ⟨tool.tool, (String.ofList text).utf8ByteSize⟩ := by
  simp [outcome, takes]

theorem outcome_of_passes (passes : tool.takes = false) (others : List Scripted) :
    outcome text (tool :: others) failure =
      outcome text others (tool.failure?.getD failure) := by
  rw [outcome, outcome, List.find?_cons_of_neg (by simp [passes])]
  cases others.find? Scripted.takes with
  | some winner => rfl
  | none =>
    rw [List.reverse_cons, List.findSome?_append, List.findSome?_singleton]
    cases others.reverse.findSome? Scripted.failure? <;> rfl

theorem append_calls (seen : List Call) (text : Text) (kind : ClipboardTool)
    (answer : CopyAnswer) : seen ++ Scripted.calls text ⟨kind, true, answer⟩ =
      (seen ++ [.probe kind]) ++ [.copy kind text] := by
  rw [List.append_assoc]
  rfl

theorem copyWith_of_takes (takes : tool.takes) (others : List Scripted) :
    (copyWith text failure ((tool :: others).map Scripted.access)).run seen =
      (.ok ⟨tool.tool, (String.ofList text).utf8ByteSize⟩, seen ++ tool.calls text) := by
  obtain ⟨kind, available, answer⟩ := tool
  simp only [Scripted.takes, Bool.and_eq_true, beq_iff_eq] at takes
  obtain ⟨rfl, rfl⟩ := takes
  rw [← Text.bytes_eq_utf8ByteSize, append_calls]
  rfl

/-- Any other tool is passed over, and nothing is kept of it but its failure. -/
theorem copyWith_of_passes (passes : tool.takes = false) (others : List Scripted) :
    (copyWith text failure ((tool :: others).map Scripted.access)).run seen =
      (copyWith text (tool.failure?.getD failure) (others.map Scripted.access)).run
        (seen ++ tool.calls text) := by
  obtain ⟨kind, available, answer⟩ := tool
  cases available with
  | false => rfl
  | true =>
    rw [append_calls]
    cases answer with
    | done => cases passes
    | notFound => rfl
    | failed message => rfl

/-! ## All tools -/

theorem copyWith_run (text : Text) (failure : CopyError) (tools : List Scripted)
    (seen : List Call) :
    (copyWith text failure (tools.map Scripted.access)).run seen =
      (outcome text tools failure, seen ++ (asked tools).flatMap (Scripted.calls text)) := by
  -- The search goes on with another failure and with more calls seen, so both are general.
  induction tools generalizing failure seen with
  | nil =>
    rw [show asked [] = [] from rfl, List.flatMap_nil, List.append_nil]
    rfl
  | cons tool others ih =>
    cases takes : tool.takes with
    | true =>
      rw [copyWith_of_takes takes, outcome_of_takes takes, asked_of_takes takes,
        List.flatMap_singleton]
    | false =>
      rw [copyWith_of_passes takes, ih, outcome_of_passes takes, asked_of_passes takes,
        List.flatMap_cons, List.append_assoc]

theorem copy_nil {m : Type → Type} [Monad m] (tools : List (Access m)) :
    copy tools [] = pure (.error .emptyText) := rfl

/-- An empty text reaches no tool. With any other the tools are asked in order, up to the first
that takes it; each sees a probe and, if it is available, the text. The result is the report
of that tool, and if there is none the last failure. -/
theorem copyScripted_eq (tools : List Scripted) (text : Text) :
    copyScripted tools text =
      if text = [] then (.error .emptyText, [])
      else (outcome text tools .noTool, (asked tools).flatMap (Scripted.calls text)) := by
  by_cases blank : text = []
  · rw [if_pos blank, blank, copyScripted, copy_nil]
    rfl
  · have some_text : text.isEmpty = false := by simpa using blank
    rw [if_neg blank, copyScripted, copy, some_text, if_neg Bool.false_ne_true, copyWith_run,
      List.nil_append]

example : copyScripted [⟨.xclip, true, .failed "no display".toList⟩, ⟨.xsel, true, .notFound⟩,
      ⟨.pbcopy, false, .done⟩] "é".toList =
    (.error (.toolFailed .xclip "no display".toList),
      [.probe .xclip, .copy .xclip "é".toList, .probe .xsel, .copy .xsel "é".toList,
        .probe .pbcopy]) := by
  rfl

end Snippet.Clipboard
