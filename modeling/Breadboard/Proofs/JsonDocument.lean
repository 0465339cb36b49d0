import Breadboard.Proofs.JsonTokens

/-!
# Printed values are parsed again

Two facts about the tokens of a value make its document one that is parsed
again. They are the tokens that the reader takes the value from, whatever is
open around it, and no two numbers among them stand side by side, so the scanner
finds them in the document that they spell.

Both are proved along the value. What the first one says has to be said of every
stack, because the value of an array's item is read below that array, and for
the items and fields that are left it is said of those that were read before.
-/

namespace Breadboard.Json

/-! ## Items and fields that others follow -/

theorem itemTokens_cons (value : Json) {rest : List Json} (h : rest ≠ []) :
    itemTokens (value :: rest) = value.tokens ++ .comma :: itemTokens rest := by
  cases rest with
  | nil => exact absurd rfl h
  | cons _ _ => rfl

theorem fieldTokens_cons (key : List UInt8) (value : Json) {rest : List (List UInt8 × Json)}
    (h : rest ≠ []) :
    fieldTokens ((key, value) :: rest)
      = .string key :: .colon :: (value.tokens ++ .comma :: fieldTokens rest) := by
  cases rest with
  | nil => exact absurd rfl h
  | cons _ _ => rfl

/-! ## Reading the tokens of a value -/

namespace Reader

/-- The reader after some tokens. -/
def feed? (r : Reader) (tokens : List Token) : Option Reader := tokens.foldlM step? r

@[simp]
theorem feed?_nil (r : Reader) : r.feed? [] = some r := rfl

theorem feed?_cons (r : Reader) (t : Token) (rest : List Token) :
    r.feed? (t :: rest) = (r.step? t).bind (·.feed? rest) := rfl

theorem feed?_append (r : Reader) (xs ys : List Token) :
    r.feed? (xs ++ ys) = (r.feed? xs).bind (·.feed? ys) := by
  unfold feed?
  rw [List.foldlM_append]
  rfl

/-- A value begins with a token that ends no array. -/
theorem exists_tokens_eq_cons (v : Json) : ∃ t rest, v.tokens = t :: rest ∧ t ≠ .closeArray := by
  cases v <;> exact ⟨_, _, rfl, by simp⟩

/-- The first item of an array is read like any other. -/
theorem feed?_awaitItem {t : Token} (ht : t ≠ .closeArray) (stack : List Frame)
    (rest : List Token) :
    feed? (.awaitItem stack) (t :: rest) = feed? (.awaitValue (.array [] :: stack)) (t :: rest) := by
  refine congrArg (Option.bind · (feed? · rest)) ?_
  cases t with
  | closeArray => exact absurd rfl ht
  | _ => rfl

/-- **The tokens of a value are read as that value**, whatever is open around it. -/
theorem feed?_tokens (v : Json) :
    ∀ stack, feed? (.awaitValue stack) v.tokens = some (supply v stack) := by
  refine tokens.induct
    (fun v => ∀ stack, feed? (.awaitValue stack) v.tokens = some (supply v stack))
    (fun fields => ∀ done stack, fields ≠ [] →
      feed? (.awaitKey done stack) (fieldTokens fields)
        = some (.afterField (fields.reverse ++ done) stack))
    (fun items => ∀ done stack, items ≠ [] →
      feed? (.awaitValue (.array done :: stack)) (itemTokens items)
        = some (.afterItem (items.reverse ++ done) stack))
    (fun _ => rfl) (fun _ _ => rfl) (fun _ _ => rfl) (fun _ _ => rfl)
    ?array ?object ?noItem ?lastItem ?item ?noField ?lastField ?field v
  case array =>
    intro items ih stack
    rw [tokens, List.cons_append, feed?_cons]
    show feed? (.awaitItem stack) (itemTokens items ++ [.closeArray]) = _
    cases items with
    | nil => rfl
    | cons item rest =>
      obtain ⟨t, more, htokens, ht⟩ := exists_tokens_eq_cons item
      obtain ⟨more', hitems⟩ : ∃ more', itemTokens (item :: rest) = t :: more' := by
        cases rest <;> simp [itemTokens, htokens]
      have hread := ih [] stack (List.cons_ne_nil _ _)
      rw [hitems] at hread ⊢
      rw [feed?_append, feed?_awaitItem ht, hread, List.append_nil, Option.bind_some]
      show some (supply (.array (item :: rest).reverse.reverse) stack) = _
      rw [List.reverse_reverse]
  case object =>
    intro fields ih stack
    rw [tokens, List.cons_append, feed?_cons]
    show feed? (.awaitField stack) (fieldTokens fields ++ [.closeObject]) = _
    cases fields with
    | nil => rfl
    | cons field rest =>
      obtain ⟨key, value⟩ := field
      have hread := ih [] stack (List.cons_ne_nil _ _)
      -- The first key is read like any other.
      have hfirst : feed? (.awaitField stack) (fieldTokens ((key, value) :: rest))
          = feed? (.awaitKey [] stack) (fieldTokens ((key, value) :: rest)) := by
        cases rest <;> rfl
      rw [feed?_append, hfirst, hread, List.append_nil, Option.bind_some]
      show some (supply (.object ((key, value) :: rest).reverse.reverse) stack) = _
      rw [List.reverse_reverse]
  case noItem => exact fun _ _ h => absurd rfl h
  case lastItem =>
    intro value ih done stack _
    rw [itemTokens, ih]
    rfl
  case item =>
    intro value rest hrest ihvalue ihrest done stack _
    rw [itemTokens_cons value hrest, feed?_append, ihvalue]
    show feed? (.awaitValue (.array (value :: done) :: stack)) (itemTokens rest) = _
    rw [ihrest (value :: done) stack hrest, List.reverse_cons, List.append_assoc]
    rfl
  case noField => exact fun _ _ h => absurd rfl h
  case lastField =>
    intro key value ih done stack _
    show feed? (.awaitValue (.object done key :: stack)) value.tokens = _
    rw [ih]
    rfl
  case field =>
    intro key value rest hrest ihvalue ihrest done stack _
    rw [fieldTokens_cons key value hrest]
    show feed? (.awaitValue (.object done key :: stack)) (value.tokens ++ _) = _
    rw [feed?_append, ihvalue]
    show feed? (.awaitKey ((key, value) :: done) stack) (fieldTokens rest) = _
    rw [ihrest ((key, value) :: done) stack hrest, List.reverse_cons, List.append_assoc]
    rfl

end Reader

/-- **The tokens of a value spell that value** and nothing else. -/
theorem ofTokens?_tokens (v : Json) : ofTokens? v.tokens = some v := by
  show (Reader.feed? (.awaitValue []) v.tokens).bind Reader.finish? = _
  rw [Reader.feed?_tokens]
  rfl

/-! ## Numbers among the tokens of a value -/

namespace Token

/-- A token that is no number parts the tokens on either side. -/
theorem isChain_apart_append_cons {t : Token} (ht : t.isNumber = false) {xs ys : List Token}
    (hxs : xs.IsChain Apart) (hys : ys.IsChain Apart) : (xs ++ t :: ys).IsChain Apart := by
  refine hxs.append (hys.cons fun _ _ => Or.inl ht) fun _ _ u hu => Or.inr ?_
  rw [← Option.some.inj hu]
  exact ht

theorem isChain_apart_cons {t : Token} (ht : t.isNumber = false) {ys : List Token}
    (hys : ys.IsChain Apart) : (t :: ys).IsChain Apart :=
  isChain_apart_append_cons ht List.isChain_nil hys

end Token

/-- **No two numbers stand side by side** in the tokens of a value. -/
theorem isChain_apart_tokens (v : Json) : v.tokens.IsChain Token.Apart := by
  refine tokens.induct
    (fun v => v.tokens.IsChain Token.Apart)
    (fun fields => (fieldTokens fields).IsChain Token.Apart)
    (fun items => (itemTokens items).IsChain Token.Apart)
    (List.isChain_singleton _) (fun _ => List.isChain_singleton _)
    (fun _ => List.isChain_singleton _) (fun _ => List.isChain_singleton _)
    ?array ?object List.isChain_nil (fun _ ih => ih) ?item List.isChain_nil ?lastField ?field v
  case array =>
    exact fun items ih => Token.isChain_apart_cons rfl
      (Token.isChain_apart_append_cons rfl ih List.isChain_nil)
  case object =>
    exact fun fields ih => Token.isChain_apart_cons rfl
      (Token.isChain_apart_append_cons rfl ih List.isChain_nil)
  case item =>
    intro value rest hrest ihvalue ihrest
    rw [itemTokens_cons value hrest]
    exact Token.isChain_apart_append_cons rfl ihvalue ihrest
  case lastField =>
    exact fun key value ih => Token.isChain_apart_cons rfl (Token.isChain_apart_cons rfl ih)
  case field =>
    intro key value rest hrest ihvalue ihrest
    rw [fieldTokens_cons key value hrest]
    exact Token.isChain_apart_cons rfl (Token.isChain_apart_cons rfl
      (Token.isChain_apart_append_cons rfl ihvalue ihrest))

/-- **Plain** values: all their numbers are integers. -/
def Plain (v : Json) : Prop := ∀ t ∈ v.tokens, t.Plain

/-- **Printed values are parsed again**, if their numbers are integers. -/
theorem parse?_print {v : Json} (hplain : v.Plain) : parse? v.print = some v := by
  show (Token.scan? (v.tokens.flatMap Token.spelling)).bind ofTokens? = _
  rw [Token.scan?_spelling hplain (isChain_apart_tokens v), Option.bind_some, ofTokens?_tokens]

end Breadboard.Json
