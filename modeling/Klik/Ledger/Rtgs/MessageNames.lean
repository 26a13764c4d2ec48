import Klik.Ledger.Rtgs.Messages
import Klik.Lib.Entities
import Klik.Lib.Markup

/-!
# Names in a message to FedNow

The names of the two banks are escaped.  An escaped name reaches the reader of
the message as character data and as nothing else.
-/

namespace Klik.Ledger.Rtgs

open Klik.Common
open Klik.Lib

/-! ## The entities of XML -/

/-- `<` and `>`. -/
def xmlBrackets : Brackets Nat := ⟨60, 62, by decide⟩

/-- The entities in the order in which `_xml_escape` writes them. -/
def xmlEntities : EntityTable Nat where
  marker := 38
  entries := [(38, py "amp;"), (60, py "lt;"), (62, py "gt;"), (34, py "quot;"),
    (39, py "apos;")]
  marker_entry := ⟨_, List.mem_cons_self .., rfl⟩
  marker_first := by decide
  plain := by decide
  prefixFree := by decide

theorem xmlEscape_eq_replaceAll (text : PyStr) :
    xmlEscape text = xmlEntities.replaceAll xmlEntities.entries text := by
  rfl

theorem xmlEscape_eq_escape (text : PyStr) : xmlEscape text = xmlEntities.escape text :=
  (xmlEscape_eq_replaceAll text).trans (xmlEntities.replaceAll_eq_escape text)

/-- Only the ampersand of the five points is left. -/
theorem notMem_xmlEscape (text : PyStr) :
    ∀ point ∈ py "<>\"'", point ∉ xmlEscape text := by
  intro point member
  have found : ∃ entry ∈ xmlEntities.entries, entry.1 = point ∧
      entry.1 ≠ xmlEntities.marker := by
    revert point
    decide
  rcases found with ⟨entry, entryMember, rfl, other⟩
  rw [xmlEscape_eq_escape]
  exact xmlEntities.notMem_escape entryMember other text

/-! ## The elements of names -/

theorem element_eq_tags (name : String) (text : PyStr) :
    element name text =
      tagText xmlBrackets (py name) ++ text ++ tagText xmlBrackets (py "/" ++ py name) := by
  have close : py "</" = 60 :: py "/" := by decide
  have opening : py "<" = [60] := by decide
  have closing : py ">" = [62] := by decide
  simp only [element, tagText, xmlBrackets, close, opening, closing, List.append_assoc,
    List.cons_append, List.nil_append]

/-- What a reader finds of an element which holds an escaped name. -/
def nameTokens (tag : String) (name : PyStr) : List (Token Nat) :=
  [.tag (py tag), .data (xmlEscape name), .tag (py "/" ++ py tag)]

/-- The parts of the message from one place to another. -/
def partsBetween
    (built : BuiltAt) (sessionId : Uuid) (transfer : TransferRequest) (first last : Nat) :
    PyStr :=
  (((pacs008Parts built sessionId transfer).take last).drop first).flatten

/-- The four elements with names stand between parts without names. -/
theorem buildPacs008_eq
    (built : BuiltAt) (sessionId : Uuid) (transfer : TransferRequest) (fromName toName : PyStr) :
    buildPacs008 built sessionId
        { transfer with fromBankCode := fromName, toBankCode := toName } =
      partsBetween built sessionId transfer 0 13 ++ element "nm" (xmlEscape fromName) ++
        (partsBetween built sessionId transfer 14 18 ++ element "Nm" (xmlEscape fromName) ++
        (partsBetween built sessionId transfer 19 26 ++ element "nm" (xmlEscape toName) ++
        (partsBetween built sessionId transfer 27 31 ++ element "Nm" (xmlEscape toName) ++
        partsBetween built sessionId transfer 32 40))) := by
  simp only [buildPacs008, partsBetween, pacs008Parts, agentParts, accountParts,
    List.cons_append, List.nil_append, List.take_succ_cons, List.take_zero, List.take_nil,
    List.drop_succ_cons, List.drop_zero, List.flatten_cons, List.flatten_nil,
    List.append_assoc, List.append_nil]

theorem notMem_closing_slash (tag : PyStr) (plain : 62 ∉ tag) : 62 ∉ py "/" ++ tag := by
  intro inside
  rcases List.mem_append.mp inside with slash | named
  · exact absurd slash (by decide)
  · exact plain named

/-- An element with a name, behind a part which ends outside of all tags. -/
theorem tokens_name
    {before : PyStr} (settles : Settles xmlBrackets before)
    (tag : String) (plain : 62 ∉ py tag) (name rest : PyStr) :
    tokens xmlBrackets (before ++ element tag (xmlEscape name) ++ rest) =
      tokens xmlBrackets before ++ nameTokens tag name ++ tokens xmlBrackets rest := by
  have noTag : xmlBrackets.opening ∉ xmlEscape name :=
    notMem_xmlEscape name 60 (by decide)
  rw [element_eq_tags]
  exact tokens_element settles plain noTag (notMem_closing_slash _ plain) rest

/-! ## What stands before a name -/

theorem settles_agent :
    Settles xmlBrackets (py "        <FinInstnId>\n          <ClrSysMmbId>\n            ") :=
  ⟨py "        <FinInstnId>\n          <ClrSysMmbId", py "\n            ", by decide, by decide⟩

theorem settles_debtor :
    Settles xmlBrackets (py "      </DbtrAgt>\n      <Dbtr>\n        ") :=
  ⟨py "      </DbtrAgt>\n      <Dbtr", py "\n        ", by decide, by decide⟩

theorem settles_creditor :
    Settles xmlBrackets (py "      </CdtrAgt>\n      <Cdtr>\n        ") :=
  ⟨py "      </CdtrAgt>\n      <Cdtr", py "\n        ", by decide, by decide⟩

/-- A part of the message ends as its last text does. -/
theorem settles_partsBetween
    {built : BuiltAt} {sessionId : Uuid} {transfer : TransferRequest} {first last : Nat}
    (front : List PyStr) {text : PyStr} (settles : Settles xmlBrackets text)
    (ends : ((pacs008Parts built sessionId transfer).take last).drop first =
      front ++ [text]) :
    Settles xmlBrackets (partsBetween built sessionId transfer first last) := by
  rw [partsBetween, ends, List.flatten_append, List.flatten_singleton]
  exact settles.append_left _

/-- Before each of the four elements the reader is outside of all tags, whatever
the identifiers of the request hold. -/
theorem settles_before_names
    (built : BuiltAt) (sessionId : Uuid) (transfer : TransferRequest) :
    Settles xmlBrackets (partsBetween built sessionId transfer 0 13) ∧
      Settles xmlBrackets (partsBetween built sessionId transfer 14 18) ∧
      Settles xmlBrackets (partsBetween built sessionId transfer 19 26) ∧
      Settles xmlBrackets (partsBetween built sessionId transfer 27 31) := by
  refine ⟨?_, ?_, ?_, ?_⟩
  · exact settles_partsBetween ((pacs008Parts built sessionId transfer).take 12)
      settles_agent rfl
  · exact settles_partsBetween (((pacs008Parts built sessionId transfer).take 17).drop 14)
      settles_debtor rfl
  · exact settles_partsBetween (((pacs008Parts built sessionId transfer).take 25).drop 19)
      settles_agent rfl
  · exact settles_partsBetween (((pacs008Parts built sessionId transfer).take 30).drop 27)
      settles_creditor rfl

/-- An escaped name can be read back, holds none of the points which open or
close a tag or an attribute, and every ampersand in it begins an entity.  In
a message it is the character data of four elements, and all other tokens of
the message are the same for all names. -/
theorem names_are_character_data :
    (∀ text : PyStr, xmlEntities.unescape (xmlEscape text) = text ∧
      (∀ point ∈ py "<>\"'", point ∉ xmlEscape text) ∧
      ∀ before after : PyStr, xmlEscape text = before ++ py "&" ++ after →
        ∃ entity ∈ [py "amp;", py "lt;", py "gt;", py "quot;", py "apos;"],
          entity <+: after) ∧
    ∀ (built : BuiltAt) (sessionId : Uuid) (transfer : TransferRequest),
      ∃ first second third fourth last : List (Token Nat), ∀ fromName toName : PyStr,
        tokens xmlBrackets (buildPacs008 built sessionId
            { transfer with fromBankCode := fromName, toBankCode := toName }) =
          first ++ nameTokens "nm" fromName ++ (second ++ nameTokens "Nm" fromName ++
            (third ++ nameTokens "nm" toName ++
              (fourth ++ nameTokens "Nm" toName ++ last))) := by
  constructor
  · intro text
    refine ⟨?_, notMem_xmlEscape text, ?_⟩
    · rw [xmlEscape_eq_escape]
      exact xmlEntities.unescape_escape text
    · intro before after split
      rw [xmlEscape_eq_escape, List.append_assoc] at split
      rcases xmlEntities.word_of_marker split with ⟨entry, member, begins⟩
      exact ⟨entry.2, List.mem_map_of_mem (f := Prod.snd) member, begins⟩
  · intro built sessionId transfer
    rcases settles_before_names built sessionId transfer with
      ⟨settlesFirst, settlesSecond, settlesThird, settlesFourth⟩
    refine ⟨tokens xmlBrackets (partsBetween built sessionId transfer 0 13),
      tokens xmlBrackets (partsBetween built sessionId transfer 14 18),
      tokens xmlBrackets (partsBetween built sessionId transfer 19 26),
      tokens xmlBrackets (partsBetween built sessionId transfer 27 31),
      tokens xmlBrackets (partsBetween built sessionId transfer 32 40), ?_⟩
    intro fromName toName
    rw [buildPacs008_eq, tokens_name settlesFirst "nm" (by decide),
      tokens_name settlesSecond "Nm" (by decide), tokens_name settlesThird "nm" (by decide),
      tokens_name settlesFourth "Nm" (by decide)]

/-- A name which looks like an entity is escaped as well. -/
theorem entity_like_name :
    ∃ entity ∈ [py "amp;", py "lt;", py "gt;", py "quot;", py "apos;"],
      entity <+: py "amp;lt;" :=
  (names_are_character_data.1 (py "&lt;")).2.2 [] (py "amp;lt;") (by decide)

end Klik.Ledger.Rtgs
