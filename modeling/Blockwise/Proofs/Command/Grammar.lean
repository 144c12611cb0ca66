import Blockwise.Command
import Blockwise.Proofs.Text.Words
import Mathlib

/-!
# The grammar of command lines

Which lines are commands, and what a command looks like when it is written.

* `Transport.lowerCase_eq_text_iff` — a word names a transport if it spells it, each
  letter small or capital.
* `Command.ofLine_eq_ok_iff` — a line is read as the command whose words are those of the
  line, the word for the transport in lower case.
* `Command.isCommand_iff` — the lists of words that are commands.
* `Command.read_back_iff_plain` — the commands that come back from their line: those of
  single words.
* `Command.canonical_line` — the lines that can be read, and the one line among them that
  a command is written as.
-/

namespace Blockwise

/-! ## Letters, small and capital -/

namespace Text

/-- A character in lower case is a small letter just if it is this letter or its capital. -/
theorem toLower_eq_iff {char letter : Char} (h : letter.isLower) :
    char.toLower = letter ↔ char = letter ∨ char = letter.toUpper := by
  have hletter : letter.toLower = letter :=
    Char.toLower_eq_of_not_isUpper (Char.not_isUpper_of_isLower h)
  constructor
  · intro hlower
    by_cases hcapital : char.isUpper
    · have hchar : char.toUpper = char :=
        Char.toUpper_eq_of_not_isLower (Char.not_isLower_of_isUpper hcapital)
      right
      rw [← hlower, Char.toUpper_toLower_eq_toUpper, hchar]
    · left
      rw [← hlower, Char.toLower_eq_of_not_isUpper hcapital]
  · rintro (rfl | rfl)
    · exact hletter
    · rw [Char.toLower_toUpper_eq_toLower, hletter]

/-- Whether a word is another one of small letters, each small or capital. -/
def SpelledAs (text word : String) : Prop :=
  List.Forall₂ (fun char letter => char = letter ∨ char = letter.toUpper) word.toList text.toList

theorem map_toLower_eq_iff {letters : List Char} (h : ∀ letter ∈ letters, letter.isLower)
    (chars : List Char) :
    chars.map Char.toLower = letters ↔
      List.Forall₂ (fun char letter => char = letter ∨ char = letter.toUpper) chars letters := by
  induction chars generalizing letters with
  | nil =>
      cases letters with
      | nil => simp
      | cons letter letters => simp
  | cons char chars ih =>
      cases letters with
      | nil => simp
      | cons letter letters =>
          obtain ⟨hletter, hletters⟩ := List.forall_mem_cons.1 h
          rw [List.map_cons, List.cons.injEq, List.forall₂_cons, toLower_eq_iff hletter,
            ih hletters]

end Text

namespace Transport

variable {word : String} {transport : Transport}

/-- A word is read as the transport whose word it is in lower case. -/
theorem ofWord_eq_ok_iff : ofWord word = .ok transport ↔ lowerCase word = transport.text := by
  unfold ofWord
  by_cases hudp : lowerCase word = "udp"
  · rw [if_pos hudp, hudp]
    cases transport <;> simp [text]
  · rw [if_neg hudp]
    by_cases htcp : lowerCase word = "tcp"
    · rw [if_pos htcp, htcp]
      cases transport <;> simp [text]
    · rw [if_neg htcp]
      cases transport <;> simp [text, hudp, htcp]

theorem of_map_ofWord {build : Transport → Command} {command : Command}
    (h : (ofWord word).map build = .ok command) :
    ∃ transport : Transport, lowerCase word = transport.text ∧ command = build transport := by
  cases hword : ofWord word with
  | error error => simp [hword, Except.map] at h
  | ok transport =>
      rw [hword] at h
      cases h
      exact ⟨transport, ofWord_eq_ok_iff.1 hword, rfl⟩

/-- The word for a transport is in lower case. -/
theorem lowerCase_text (transport : Transport) : lowerCase transport.text = transport.text := by
  cases transport <;> decide

/-- A word is the word for a transport in lower case just if it spells it. -/
theorem lowerCase_eq_text_iff :
    lowerCase word = transport.text ↔ Text.SpelledAs transport.text word := by
  have hsmall : ∀ letter ∈ transport.text.toList, letter.isLower := by
    cases transport <;> simp [Transport.text]
  rw [Text.SpelledAs, ← Text.map_toLower_eq_iff hsmall, lowerCase, ← String.toList_inj,
    String.toList_ofList]

end Transport

namespace Command

/-! ## The words of a command -/

/-- The words that a command consists of. -/
def fields : Command → List String
  | .download uri destination none => ["download", uri, destination]
  | .download uri destination (some (identity, key)) =>
    ["download", uri, destination, identity, key]
  | .reconnect transport => ["reconnect", transport.text]
  | .enterOffline transport => ["enter-offline", transport.text]
  | .exitOffline transport => ["exit-offline", transport.text]
  | .removeServer => ["remove-server"]

/-- A command is written with single spaces between its words. -/
theorem text_eq (command : Command) : command.text = " ".intercalate command.fields := by
  cases command with
  | download uri destination credentials =>
      cases credentials with
      | none => rfl
      | some credentials => rfl
  | _ => rfl

/-- The words of a line with the word for the transport, which is the second of two, in
lower case. -/
def lowered : List String → List String
  | [verb, word] => [verb, Transport.lowerCase word]
  | words => words

theorem lowered_of_length {words : List String} (h : words.length ≠ 2) : lowered words = words := by
  match words with
  | [] => rfl
  | [_] => rfl
  | [_, _] => exact absurd rfl h
  | _ :: _ :: _ :: _ => rfl

theorem length_lowered (words : List String) : (lowered words).length = words.length := by
  match words with
  | [] => rfl
  | [_] => rfl
  | [_, _] => rfl
  | _ :: _ :: _ :: _ => rfl

variable {command : Command} {line : String} {words : List String}

/-- Where there are not two words, they are what they are in lower case. -/
theorem eq_of_lowered_eq {fields : List String} (h : lowered words = fields)
    (hlength : fields.length ≠ 2) : words = fields := by
  rwa [lowered_of_length] at h
  rwa [← length_lowered words, h]

/-- Where there are two words, the second is what it is in lower case. -/
theorem eq_of_lowered_eq_pair {verb text : String} (h : lowered words = [verb, text]) :
    ∃ word, words = [verb, word] ∧ Transport.lowerCase word = text := by
  have hlength := length_lowered words
  rw [h] at hlength
  obtain ⟨first, second, rfl⟩ := List.length_eq_two.1 hlength.symm
  obtain ⟨rfl, hsecond, -⟩ : first = verb ∧ Transport.lowerCase second = text ∧ True := by
    simpa [lowered] using h
  exact ⟨second, rfl, hsecond⟩

/-- The words of a command are in lower case where they need to be. -/
theorem lowered_fields (command : Command) : lowered command.fields = command.fields := by
  cases command with
  | download uri destination credentials =>
      cases credentials with
      | none => rfl
      | some credentials => rfl
  | reconnect transport | enterOffline transport | exitOffline transport =>
      rw [fields, lowered, transport.lowerCase_text]
  | removeServer => rfl

/-- **Words are read as the command whose words they are.** -/
theorem ofWords_eq_ok_iff : ofWords line words = .ok command ↔ lowered words = command.fields := by
  constructor
  · intro h
    unfold ofWords at h
    split at h
    case h_1 | h_2 | h_6 =>
      cases h
      rfl
    case h_3 | h_4 | h_5 =>
      obtain ⟨transport, hword, rfl⟩ := Transport.of_map_ofWord h
      rw [lowered, hword, fields]
    case h_7 => cases h
  · intro h
    cases command with
    | download uri destination credentials =>
        cases credentials with
        | none | some credentials =>
            rw [eq_of_lowered_eq h (by simp [fields])]
            rfl
    | reconnect transport | enterOffline transport | exitOffline transport =>
        obtain ⟨word, rfl, hword⟩ := eq_of_lowered_eq_pair h
        rw [ofWords, Transport.ofWord_eq_ok_iff.2 hword]
        rfl
    | removeServer =>
        rw [eq_of_lowered_eq h (by simp [fields])]
        rfl

/-- A line is read as the command whose words are its words. -/
theorem ofLine_eq_ok_iff :
    ofLine line = .ok command ↔ lowered (Text.words line) = command.fields :=
  ofWords_eq_ok_iff

/-! ## Commands of single words -/

/-- Whether every part of a command that is free text is a single word. -/
def IsPlain : Command → Prop
  | .download uri destination credentials =>
    Text.IsWord uri ∧ Text.IsWord destination ∧
      ∀ identity key, credentials = some (identity, key) → Text.IsWord identity ∧ Text.IsWord key
  | _ => True

/-- Then its words are single words. -/
theorem IsPlain.isWord (h : command.IsPlain) : ∀ word ∈ command.fields, Text.IsWord word := by
  have hdownload : Text.IsWord "download" := by decide
  have htransport : ∀ transport : Transport, Text.IsWord transport.text := by
    intro transport
    cases transport <;> decide
  cases command with
  | download uri destination credentials =>
      obtain ⟨huri, hdestination, hcredentials⟩ := h
      cases credentials with
      | none => simp [fields, hdownload, huri, hdestination]
      | some credentials =>
          obtain ⟨identity, key⟩ := credentials
          obtain ⟨hidentity, hkey⟩ := hcredentials identity key rfl
          simp [fields, hdownload, huri, hdestination, hidentity, hkey]
  | reconnect transport | enterOffline transport | exitOffline transport =>
      simp only [fields, List.forall_mem_cons]
      exact ⟨by decide, htransport transport, by simp⟩
  | removeServer =>
      simp only [fields, List.forall_mem_cons]
      exact ⟨by decide, by simp⟩

/-- **A command of single words is read back from its line.** -/
theorem IsPlain.ofLine_text (h : command.IsPlain) : ofLine command.text = .ok command := by
  rw [ofLine_eq_ok_iff, text_eq, Text.words_intercalate_of_isWord h.isWord, lowered_fields]

/-- No line is read as any other command. -/
theorem isPlain_of_ofLine (h : ofLine line = .ok command) : command.IsPlain := by
  rw [ofLine_eq_ok_iff] at h
  cases command with
  | download uri destination credentials =>
      have hwords : Text.words line = (download uri destination credentials).fields := by
        apply eq_of_lowered_eq h
        cases credentials <;> simp [fields]
      have hword : ∀ word ∈ (download uri destination credentials).fields, Text.IsWord word :=
        fun word hmem => Text.isWord_of_mem_words (hwords ▸ hmem)
      cases credentials with
      | none => exact ⟨hword uri (by simp [fields]), hword destination (by simp [fields]), by simp⟩
      | some credentials =>
          refine ⟨hword uri (by simp [fields]), hword destination (by simp [fields]), ?_⟩
          rintro identity key ⟨⟩
          exact ⟨hword identity (by simp [fields]), hword key (by simp [fields])⟩
  | _ => trivial

/-! ## The lists of words that are commands -/

/-- The lists of words that are commands: a download with two or four words more, a word
of the connection with a word that spells a transport, and the word to forget the
server. -/
inductive IsCommand : List String → Prop where
  | download {further : List String} (h : further.length = 2 ∨ further.length = 4) :
      IsCommand ("download" :: further)
  | connection {verb word : String} (hverb : verb ∈ ["reconnect", "enter-offline", "exit-offline"])
      (hword : Text.SpelledAs "udp" word ∨ Text.SpelledAs "tcp" word) : IsCommand [verb, word]
  | removeServer : IsCommand ["remove-server"]

theorem spelledAs_iff {word : String} :
    Text.SpelledAs "udp" word ∨ Text.SpelledAs "tcp" word ↔
      ∃ transport : Transport, Transport.lowerCase word = transport.text := by
  constructor
  · rintro (h | h)
    · exact ⟨.udp, Transport.lowerCase_eq_text_iff.2 h⟩
    · exact ⟨.tcp, Transport.lowerCase_eq_text_iff.2 h⟩
  · rintro ⟨transport, h⟩
    cases transport with
    | udp => exact .inl (Transport.lowerCase_eq_text_iff.1 h)
    | tcp => exact .inr (Transport.lowerCase_eq_text_iff.1 h)

/-- **These are the words of a command.** -/
theorem isCommand_iff : IsCommand words ↔ ∃ command : Command, lowered words = command.fields := by
  constructor
  · intro h
    cases h with
    | @download further hlength =>
        match further, hlength with
        | [uri, destination], _ => exact ⟨.download uri destination none, rfl⟩
        | [uri, destination, identity, key], _ =>
            exact ⟨.download uri destination (some (identity, key)), rfl⟩
    | @connection verb word hverb hword =>
        obtain ⟨transport, htransport⟩ := spelledAs_iff.1 hword
        rw [lowered, htransport]
        simp only [List.mem_cons, List.not_mem_nil, or_false] at hverb
        rcases hverb with rfl | rfl | rfl
        · exact ⟨.reconnect transport, rfl⟩
        · exact ⟨.enterOffline transport, rfl⟩
        · exact ⟨.exitOffline transport, rfl⟩
    | removeServer => exact ⟨.removeServer, rfl⟩
  · rintro ⟨command, h⟩
    cases command with
    | download uri destination credentials =>
        cases credentials with
        | none =>
            rw [eq_of_lowered_eq h (by simp [fields])]
            exact .download (.inl rfl)
        | some credentials =>
            rw [eq_of_lowered_eq h (by simp [fields])]
            exact .download (.inr rfl)
    | reconnect transport | enterOffline transport | exitOffline transport =>
        obtain ⟨word, rfl, hword⟩ := eq_of_lowered_eq_pair h
        exact .connection (by simp) (spelledAs_iff.2 ⟨transport, hword⟩)
    | removeServer =>
        rw [eq_of_lowered_eq h (by simp [fields])]
        exact .removeServer

/-! ## Main results -/

/-- **A command is read back from its line just if it is plain:** if the URI and the
destination of a download are single words, and with credentials these too.  No line at
all is read as a command that is not plain. -/
theorem read_back_iff_plain (command : Command) :
    (ofLine command.text = .ok command ↔ command.IsPlain) ∧
      ∀ line, ofLine line = .ok command → command.IsPlain :=
  ⟨⟨isPlain_of_ofLine, IsPlain.ofLine_text⟩, fun _ => isPlain_of_ofLine⟩

/-- Nothing is quoted, so a destination of three words is read with credentials. -/
example : ofLine (download "coap://h/a" "b c d" none).text =
    .ok (.download "coap://h/a" "b" (some ("c", "d"))) := by decide

/-- **Command lines have a canonical form.**  A line can be read just if the parts between
its white space are the words of a command.  What is read is written as these words with
single spaces between them, the word for a transport in lower case, and this line is read
as the same command. -/
theorem canonical_line (line : String) :
    ((∃ command, ofLine line = .ok command) ↔ IsCommand (Text.parts Text.isBlank line)) ∧
      ∀ command, ofLine line = .ok command →
        command.text = " ".intercalate (lowered (Text.parts Text.isBlank line)) ∧
        ofLine command.text = .ok command := by
  rw [← Text.words_eq_parts]
  constructor
  · rw [isCommand_iff]
    exact exists_congr fun command => ofLine_eq_ok_iff
  · intro command h
    exact ⟨by rw [ofLine_eq_ok_iff.1 h, text_eq], (isPlain_of_ofLine h).ofLine_text⟩

example : (ofLine "\t enter-offline   UdP ").map text = .ok "enter-offline udp" := by decide

end Command
end Blockwise
