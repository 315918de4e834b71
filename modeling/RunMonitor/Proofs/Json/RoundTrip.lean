import RunMonitor.Json.Parser
import RunMonitor.Proofs.Json.Scan

namespace RunMonitor.Json

theorem read_firstItem (item : Json) (around : List Enclosure) :
    item.tokens.foldlM readToken (.firstItem around) =
      item.tokens.foldlM readToken (.value (.items [] :: around)) := by
  cases item with
  | arr items => cases items <;> rfl
  | obj fields => cases fields <;> rfl
  | _ => rfl

mutual
theorem read_tokens : (json : Json) → (around : List Enclosure) →
    json.tokens.foldlM readToken (.value around) = some (.after json around)
  | .null, _ | .bool _, _ | .int _, _ | .real _, _ | .str _, _ | .unreadable, _ => rfl
  | .arr [], _ => rfl
  | .arr (item :: rest), around => by
      have hopen : readToken (.value around) .openArr = some (.firstItem around) := rfl
      simp only [tokens, List.cons_append, List.append_assoc]
      rw [List.foldlM_cons, hopen, Option.bind_eq_bind, Option.bind_some, List.foldlM_append,
        read_firstItem, read_tokens item, Option.bind_eq_bind, Option.bind_some,
        read_itemTokens rest item [] around]
      rfl
  | .obj [], _ => rfl
  | .obj ((key, value) :: rest), around => by
      have hopen (ts : List Token) :
          (.openObj :: .text (some key) :: .colon :: ts).foldlM readToken (.value around) =
            ts.foldlM readToken (.value (.fields [] key :: around)) := rfl
      simp only [tokens, List.cons_append, List.append_assoc]
      rw [hopen, List.foldlM_append, read_tokens value, Option.bind_eq_bind, Option.bind_some,
        read_fieldTokens rest key value [] around]
      rfl

theorem read_itemTokens : (items : List Json) → (item : Json) → (before : List Json) →
    (around : List Enclosure) →
    (itemTokens items ++ [Token.closeArr]).foldlM readToken
        (.after item (.items before :: around)) =
      some (.after (.arr (before.reverse ++ item :: items)) around)
  | [], item, before, around => by
      simp [itemTokens, readToken, readAfter]
  | next :: rest, item, before, around => by
      have hcomma : readToken (.after item (.items before :: around)) .comma =
          some (.value (.items (item :: before) :: around)) := rfl
      simp only [itemTokens, List.cons_append, List.append_assoc]
      rw [List.foldlM_cons, hcomma, Option.bind_eq_bind, Option.bind_some, List.foldlM_append,
        read_tokens next, Option.bind_eq_bind, Option.bind_some,
        read_itemTokens rest next (item :: before) around]
      simp

theorem read_fieldTokens : (fields : List (String × Json)) → (key : String) → (value : Json) →
    (before : List (String × Json)) → (around : List Enclosure) →
    (fieldTokens fields ++ [Token.closeObj]).foldlM readToken
        (.after value (.fields before key :: around)) =
      some (.after (.obj (before.reverse ++ (key, value) :: fields)) around)
  | [], key, value, before, around => by
      simp [fieldTokens, readToken, readAfter]
  | (nextKey, next) :: rest, key, value, before, around => by
      have hcomma (ts : List Token) :
          (.comma :: .text (some nextKey) :: .colon :: ts).foldlM readToken
              (.after value (.fields before key :: around)) =
            ts.foldlM readToken (.value (.fields ((key, value) :: before) nextKey :: around)) := rfl
      simp only [fieldTokens, List.cons_append, List.append_assoc]
      rw [hcomma, List.foldlM_append, read_tokens next, Option.bind_eq_bind, Option.bind_some,
        read_fieldTokens rest nextKey next ((key, value) :: before) around]
      simp
end

theorem parse?_bytes {json : Json} (h : json.isPlain = true) : parse? json.bytes = some json := by
  rw [parse?, tokens?_bytes h, Option.bind_eq_bind, Option.bind_some, ofTokens?, read_tokens]
  rfl

end RunMonitor.Json
