import SpritexPay.CheckoutPage
import SpritexPay.Textual.Escape

/-! What the page displays of a text. The ampersand is replaced first, so the
replacements after it leave the entities alone and come to one pass. -/

set_option autoImplicit false

namespace SpritexPay.CheckoutPage

open Textual

/-- What a character is displayed as. -/
def entity (char : Char) : String :=
  if char = '&' then "&amp;"
  else if char = '<' then "&lt;"
  else if char = '>' then "&gt;"
  else if char = '\"' then "&quot;"
  else if char = '\x27' then "&#39;"
  else .singleton char

def entities : Escapes where
  marker := '&'
  codes := [('&', "&amp;"), ('<', "&lt;"), ('>', "&gt;"), ('\"', "&quot;"), ('\x27', "&#39;")]
  ordered := by decide
  marked := by decide
  escapesMarker := by decide
  clean := by decide
  prefixFree := by decide

/-- What a browser reads of a text in which only the five entities occur. -/
def unescape (text : String) : String := decode entities.codes text

theorem esc_eq_escape (text : String) : esc text = entities.escape text := by
  simp only [esc, Escapes.escape, entities, replaceAll, List.foldl_cons, List.foldl_nil]

theorem written_entities (char : Char) : written entities.codes char = (entity char).toList := by
  simp only [entities, written_cons, entity]
  split_ifs
  · rfl
  · rfl
  · rfl
  · rfl
  · rfl
  · exact (String.toList_singleton char).symm

theorem toList_esc (text : String) :
    (esc text).toList = text.toList.flatMap fun char => (entity char).toList := by
  rw [esc_eq_escape, Escapes.toList_escape]
  exact congrArg (List.flatMap · text.toList) (funext written_entities)

theorem esc_eq_join (text : String) : esc text = .join (text.toList.map entity) := by
  apply String.toList_injective
  rw [toList_esc, String.toList_join, List.flatMap_map]

theorem unescape_esc (text : String) : unescape (esc text) = text := by
  rw [esc_eq_escape]
  exact Escapes.decode_escape text

theorem esc_injective : Function.Injective esc := by
  intro left right same
  rw [esc_eq_escape, esc_eq_escape] at same
  exact Escapes.escape_injective same

/-- No character that is escaped is left, other than the ampersand. -/
theorem escaped_not_mem_esc {char : Char} {name : String} (member : (char, name) ∈ entities.codes)
    (other : char ≠ '&') (text : String) : char ∉ (esc text).toList := by
  rw [esc_eq_escape]
  exact Escapes.not_mem_escape member other text

theorem ampersand_starts_entity {text : String} {front back : List Char}
    (split : (esc text).toList = front ++ '&' :: back) :
    ∃ code ∈ entities.codes, code.2.toList <+: '&' :: back := by
  rw [esc_eq_escape] at split
  exact Escapes.marker_starts_code split

/-- Escaping is one pass over the text. Of the characters that it is for only the
ampersand is left, at the start of an entity, and the text can be read back. -/
theorem esc_exact :
    (∀ text, esc text = .join (text.toList.map entity)) ∧
    (∀ text, '<' ∉ (esc text).toList ∧ '>' ∉ (esc text).toList ∧
      '\"' ∉ (esc text).toList ∧ '\x27' ∉ (esc text).toList) ∧
    (∀ text front back, (esc text).toList = front ++ '&' :: back →
      ∃ name ∈ ["&amp;", "&lt;", "&gt;", "&quot;", "&#39;"], name.toList <+: '&' :: back) ∧
    (∀ text, unescape (esc text) = text) ∧
    Function.Injective esc := by
  refine ⟨esc_eq_join, fun text => ⟨?_, ?_, ?_, ?_⟩, fun text front back split => ?_,
    unescape_esc, esc_injective⟩
  · exact escaped_not_mem_esc (.tail _ (.head _)) (by decide) text
  · exact escaped_not_mem_esc (.tail _ (.tail _ (.head _))) (by decide) text
  · exact escaped_not_mem_esc (.tail _ (.tail _ (.tail _ (.head _)))) (by decide) text
  · exact escaped_not_mem_esc (.tail _ (.tail _ (.tail _ (.tail _ (.head _))))) (by decide) text
  · obtain ⟨code, member, starts⟩ := ampersand_starts_entity split
    exact ⟨code.2, List.mem_map_of_mem member, starts⟩

/-- A text that already contains an entity. -/
theorem esc_exact_sample : unescape (esc "a &lt; b & c") = "a &lt; b & c" ∧
    ∃ name ∈ ["&amp;", "&lt;", "&gt;", "&quot;", "&#39;"],
      name.toList <+: '&' :: ['a', 'm', 'p', ';', 'l', 't', ';'] := by
  obtain ⟨_, _, starts, read, _⟩ := esc_exact
  have split : (esc "&lt;").toList = [] ++ '&' :: ['a', 'm', 'p', ';', 'l', 't', ';'] := by
    decide +kernel
  exact ⟨read _, starts _ _ _ split⟩

end SpritexPay.CheckoutPage
