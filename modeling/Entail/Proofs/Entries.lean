/-
Entail/Proofs/Entries.lean

What an entry is read as.

A field of an entry is there if and only if the last member of its name is of the right type, and
then it holds that value (`Entry.Follows`).  The kind alone has a second spelling, an object with
one member, so what is said about it leaves objects out.
-/
import Entail.Document.Sketch
import Entail.Proofs.Grammar

namespace Entail

open Json (lastOf merged mergedInto)

/-! ### Texts and lists of texts -/

theorem textOf?_eq_some_iff {v : Json} {s : String} : textOf? v = some s ↔ v = .text s := by
  cases v <;> simp [textOf?]

theorem mapM_textOf?_map (names : List String) :
    (names.map Json.text).mapM textOf? = some names := by
  induction names with
  | nil => rfl
  | cons name names ih =>
    rw [List.map_cons, List.mapM_cons, ih]
    rfl

theorem mapM_textOf?_eq_some_iff {vs : List Json} {names : List String} :
    vs.mapM textOf? = some names ↔ vs = names.map .text := by
  refine ⟨fun h => ?_, fun h => h ▸ mapM_textOf?_map names⟩
  induction vs generalizing names with
  | nil =>
    obtain rfl := Option.some.inj h
    rfl
  | cons v vs ih =>
    rw [List.mapM_cons] at h
    obtain ⟨s, hs, h⟩ := Option.bind_eq_some_iff.mp h
    obtain ⟨ss, hss, h⟩ := Option.bind_eq_some_iff.mp h
    obtain rfl := Option.some.inj h
    rw [textOf?_eq_some_iff.mp hs, ih hss, List.map_cons]

/-- A list of names is read from the value that it is written as, and no other. -/
theorem Premises.ofJson?_eq_many_iff {v : Json} {names : List String} :
    ofJson? v = some (.many names) ↔ v = Json.texts names := by
  cases v with
  | list vs => simp [ofJson?, Json.texts, mapM_textOf?_eq_some_iff]
  | _ => simp [ofJson?, Json.texts]

theorem Premises.ofJson?_eq_one_iff {v : Json} {name : String} :
    ofJson? v = some (.one name) ↔ v = .text name := by
  cases v <;> simp [ofJson?]

/-! ### Kinds -/

theorem Kind.ofWord_eq_ite (word : String) :
    ofWord word =
      if word = "fact" then .fact else if word = "imply" then .imply else .unknown := by
  simp only [ofWord, words, Json.lookup_cons_eq_ite, List.lookup_nil]
  by_cases hfact : word = "fact"
  · simp [hfact]
  · by_cases himply : word = "imply"
    · simp [himply]
    · by_cases hunknown : word = "unknown" <;> simp [hfact, himply, hunknown]

theorem Kind.ofWord_eq_iff {k : Kind} (hk : k ≠ .unknown) {word : String} :
    ofWord word = k ↔ word = k.word := by
  rw [ofWord_eq_ite]
  by_cases hfact : word = "fact"
  · cases k <;> simp [hfact, Kind.word] at hk ⊢
  · by_cases himply : word = "imply"
    · cases k <;> simp [himply, Kind.word] at hk ⊢
    · cases k <;> simp [hfact, himply, Kind.word] at hk ⊢

/-- The value spells the kind: as its word, or as an object that holds `null` under that alone. -/
def Kind.Spelled (k : Kind) (v : Json) : Prop :=
  v = .text k.word ∨ v = .object [(k.word, .null)]

/-- Which values give a kind of their own. -/
theorem Kind.ofJson_eq_iff {k : Kind} (hk : k ≠ .unknown) {v : Json} :
    ofJson v = k ↔ k.Spelled v := by
  unfold ofJson
  split
  · next word => simp [ofWord_eq_iff hk, Spelled]
  · next word => simp [ofWord_eq_iff hk, Spelled]
  · next htext hobject =>
    refine ⟨fun h => absurd h.symm hk, ?_⟩
    rintro (rfl | rfl)
    · exact absurd rfl (htext _)
    · exact absurd rfl (hobject _)

namespace Entry

/-- What a value says of the kind of an entry: under the key of an object, or first in a list that
is not longer than the fields. -/
def kindOf? : Json → Option Json
  | .object ms => ms.lookup "kind"
  | .list vs => if vs.length ≤ fieldNames.length then vs.head? else none
  | _ => none

theorem kind_ofJson (v : Json) : (ofJson v).kind = ((kindOf? v).map Kind.ofJson).getD .unknown := by
  cases v with
  | object ms => rfl
  | list vs =>
    rw [ofJson, kindOf?]
    by_cases hlen : vs.length ≤ fieldNames.length
    · rw [if_pos hlen, if_pos hlen]
      cases vs <;> rfl
    · rw [if_neg hlen, if_neg hlen]
      rfl
  | _ => rfl

/-- An entry is of a kind if and only if its value says so. -/
theorem kind_ofJson_eq_iff {k : Kind} (hk : k ≠ .unknown) {v : Json} :
    (ofJson v).kind = k ↔ ∃ w, kindOf? v = some w ∧ k.Spelled w := by
  rw [kind_ofJson]
  cases kindOf? v with
  | none => simpa using hk.symm
  | some w => simp [Kind.ofJson_eq_iff hk]

/-- A value that is neither an object nor a list of fields gives the empty entry. -/
theorem ofJson_eq_empty {v : Json} (hobject : ∀ ms, v ≠ .object ms)
    (hlist : ∀ vs, v = .list vs → fieldNames.length < vs.length) : ofJson v = {} := by
  cases v with
  | object ms => exact absurd rfl (hobject ms)
  | list vs => rw [ofJson, if_neg (Nat.not_le.mpr (hlist vs rfl))]
  | _ => rfl

end Entry

/-! ### Merged values -/

theorem textOf?_merged (v : Json) : textOf? (merged v) = textOf? v := by
  cases v <;> rfl

theorem Premises.ofJson?_merged (v : Json) : ofJson? (merged v) = ofJson? v := by
  cases v with
  | list vs =>
    show (List.mapM textOf? (Json.mergedItems vs)).map _ = (vs.mapM textOf?).map _
    rw [Json.mergedItems_eq_map, List.mapM_map]
    simp only [Function.comp_def, textOf?_merged]
  | _ => rfl

/-- What stands under a key of an object is the last value of the key. -/
theorem lookup_mergedInto_nil (ms : List (String × Json)) (key : String) :
    (mergedInto [] ms).lookup key = (lastOf ms key).map merged := by
  rw [Json.lookup_mergedInto, List.lookup_nil, Option.or_none]

/-! ### Objects -/

/-- An entry says what the values of an object say, each where it is of the right type. -/
structure Entry.Follows (e : Entry) (value : String → Option Json) : Prop where
  fact : (∀ ms, value "kind" ≠ some (.object ms)) →
    (e.kind = .fact ↔ value "kind" = some (.text "fact"))
  imply : (∀ ms, value "kind" ≠ some (.object ms)) →
    (e.kind = .imply ↔ value "kind" = some (.text "imply"))
  unknown : (∀ ms, value "kind" ≠ some (.object ms)) →
    (e.kind = .unknown ↔
      value "kind" ≠ some (.text "fact") ∧ value "kind" ≠ some (.text "imply"))
  subject : ∀ s, e.subject = some s ↔ value "subject" = some (.text s)
  object : ∀ s, e.object = some s ↔ value "object" = some (.text s)
  one : ∀ s, e.premises = some (.one s) ↔ value "if" = some (.text s)
  many : ∀ names, e.premises = some (.many names) ↔ value "if" = some (Json.texts names)
  conclusion : ∀ s, e.conclusion = some s ↔ value "then" = some (.text s)
  value : ∀ b, e.value = some b ↔ value "value" = some (.bool b)

/-- The kind of an object, if what stands there is no object itself. -/
theorem Entry.kind_object_eq_iff {ms : List (String × Json)}
    (h : ∀ ms', lastOf ms "kind" ≠ some (.object ms')) {k : Kind} (hk : k ≠ .unknown) :
    (ofJson (merged (.object ms))).kind = k ↔ lastOf ms "kind" = some (.text k.word) := by
  have hkind : kindOf? (merged (.object ms)) = (lastOf ms "kind").map merged :=
    lookup_mergedInto_nil ms "kind"
  rw [kind_ofJson_eq_iff hk, hkind]
  cases hv : lastOf ms "kind" with
  | none => simp
  | some v =>
    cases v with
    | object ms' => exact absurd hv (h ms')
    | _ => simp [merged, Kind.Spelled]

/-- An object is read field by field, with the last value of every key. -/
theorem Entry.follows_ofJson (ms : List (String × Json)) :
    (ofJson (merged (.object ms))).Follows (lastOf ms) := by
  have htext (key s : String) : (((mergedInto [] ms).lookup key).bind textOf? = some s) ↔
      lastOf ms key = some (.text s) := by
    rw [lookup_mergedInto_nil]
    cases lastOf ms key <;> simp [textOf?_merged, textOf?_eq_some_iff]
  exact
    { fact := fun h => kind_object_eq_iff h (by decide)
      imply := fun h => kind_object_eq_iff h (by decide)
      unknown := fun h => by
        have hfact := kind_object_eq_iff h (by decide : Kind.fact ≠ .unknown)
        have himply := kind_object_eq_iff h (by decide : Kind.imply ≠ .unknown)
        simp only [Kind.word] at hfact himply
        rw [ne_eq, ne_eq, ← hfact, ← himply]
        cases (ofJson (merged (.object ms))).kind <;> simp
      subject := htext "subject"
      object := htext "object"
      one := fun s => by
        show ((mergedInto [] ms).lookup "if").bind Premises.ofJson? = _ ↔ _
        rw [lookup_mergedInto_nil]
        cases lastOf ms "if" <;> simp [Premises.ofJson?_merged, Premises.ofJson?_eq_one_iff]
      many := fun names => by
        show ((mergedInto [] ms).lookup "if").bind Premises.ofJson? = _ ↔ _
        rw [lookup_mergedInto_nil]
        cases lastOf ms "if" <;> simp [Premises.ofJson?_merged, Premises.ofJson?_eq_many_iff]
      conclusion := htext "then"
      value := fun b => by
        show ((mergedInto [] ms).lookup "value").bind _ = _ ↔ _
        rw [lookup_mergedInto_nil]
        cases lastOf ms "value" with
        | none => simp
        | some v => cases v <;> simp [merged] }

end Entail
