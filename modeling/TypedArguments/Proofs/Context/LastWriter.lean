import Mathlib.Data.Finset.Card
import TypedArguments.Proofs.Search.Asked

/-!
# The last registration counts

Registrations bring conversions, one after the other, and of those for one pair of types the last
one is in force (`LastBy`). One step of registering keeps the converters in force and the
records in line with what was brought (`Context.Follows.register`), so a whole run of registrations
does (`Context.follows_extend`). What is counted, shown and nullable then depends on the pairs and
the contents alone (`Context.LeftBy`), and two runs with the same end cannot be told apart
(`extend_last_counts`).
-/

namespace TypedArguments

/-- Of the members of the list with its key, `a` is the last one. -/
def LastBy {α β : Type} (key : α → β) (a : α) (as : List α) : Prop :=
  ∃ before after, as = before ++ a :: after ∧ ∀ b ∈ after, key b ≠ key a

section LastBy

variable {α β : Type} {key : α → β} {a : α}

/-- The last member for its key is a member. -/
lemma LastBy.mem {as : List α} (h : LastBy key a as) : a ∈ as := by
  obtain ⟨before, after, rfl, _⟩ := h
  exact List.mem_append_right _ List.mem_cons_self

/-- One member more is the last one for its key, and changes nothing for other keys. -/
lemma lastBy_concat {b : α} {as : List α} :
    LastBy key a (as ++ [b]) ↔ a = b ∨ key b ≠ key a ∧ LastBy key a as := by
  constructor
  · rintro ⟨before, after, split, later⟩
    obtain rfl | ⟨after, c, rfl⟩ := List.eq_nil_or_concat' after
    · exact .inl (List.append_singleton_inj.1 split).2.symm
    · rw [← List.cons_append, ← List.append_assoc] at split
      obtain ⟨rfl, rfl⟩ := List.append_singleton_inj.1 split
      refine .inr ⟨?_, before, after, rfl, ?_⟩
      · exact later b (List.mem_append_right _ (List.mem_singleton_self b))
      · exact fun d hd => later d (List.mem_append_left _ hd)
  · rintro (rfl | ⟨ne, before, after, rfl, later⟩)
    · exact ⟨as, [], rfl, nofun⟩
    · refine ⟨before, after ++ [b], by rw [List.append_assoc, List.cons_append], ?_⟩
      exact List.forall_mem_append.2 ⟨later, List.forall_mem_singleton.2 ne⟩

/-- For each key in the list there is a last member. -/
lemma exists_lastBy [DecidableEq β] {k : β} {as : List α} (h : k ∈ as.map key) :
    ∃ a, LastBy key a as ∧ key a = k := by
  induction as using List.reverseRecOn with
  | nil => cases h
  | append_singleton as b ih =>
    by_cases e : key b = k
    · exact ⟨b, lastBy_concat.2 (.inl rfl), e⟩
    · rw [List.map_append, List.mem_append] at h
      have earlier : k ∈ as.map key := by
        refine h.resolve_right ?_
        intro hb
        exact e (List.mem_singleton.1 hb).symm
      obtain ⟨a, ha, rfl⟩ := ih earlier
      exact ⟨a, lastBy_concat.2 (.inr ⟨e, ha⟩), rfl⟩

end LastBy

variable {κ : Type} [UserTypes κ]

namespace Conversion

/-- The conversions in the list that come after another one for their pair. -/
def replacing [DecidableEq κ] (cs : List (Conversion κ)) : List (Conversion κ) :=
  (cs.zipIdx.filter fun p => p.1.pair ∈ (cs.take p.2).map pair).map Prod.fst

variable [DecidableEq κ]

/-- One more conversion is among them if its pair was there before. -/
lemma replacing_concat (cs : List (Conversion κ)) (d : Conversion κ) :
    replacing (cs ++ [d]) = replacing cs ++ if d.pair ∈ cs.map pair then [d] else [] := by
  have earlier : ∀ p ∈ cs.zipIdx, (cs ++ [d]).take p.2 = cs.take p.2 := by
    intro p hp
    apply List.take_append_of_le_length
    exact Nat.le_of_lt (List.snd_lt_of_mem_zipIdx hp)
  have kept : (cs.zipIdx.filter fun p => p.1.pair ∈ ((cs ++ [d]).take p.2).map pair) =
      cs.zipIdx.filter fun p => p.1.pair ∈ (cs.take p.2).map pair := by
    apply List.filter_congr
    intro p hp
    rw [earlier p hp]
  rw [replacing, List.zipIdx_append, List.filter_append, List.map_append, kept, replacing]
  congr 1
  simp only [List.zipIdx_singleton, Nat.zero_add, List.filter_singleton, List.take_left,
    Bool.cond_decide]
  split
  · rfl
  · rfl

end Conversion

namespace Registration

/-- The type over which a registration makes the optional type nullable. -/
def content? : Registration κ → Option (Ty κ)
  | .conversion _ => none
  | .optional s => some s

/-- Only the registration of a nullable type has a content. -/
lemma content?_eq_some {r : Registration κ} {u : Ty κ} : r.content? = some u ↔ r = .optional u := by
  cases r with
  | conversion c => exact ⟨nofun, nofun⟩
  | optional s => rw [content?, Option.some.injEq, optional.injEq]

variable [DecidableEq κ]

/-- The different pairs for which registrations bring conversions. -/
def pairs (rs : List (Registration κ)) : Finset (Ty κ × Ty κ) :=
  ((rs.flatMap conversions).map Conversion.pair).toFinset

/-- The different types over which registrations make the optional types nullable. -/
def contents (rs : List (Registration κ)) : Finset (Ty κ) :=
  (rs.filterMap content?).toFinset

/-- The contents are those of the registered nullable types. -/
lemma mem_contents {rs : List (Registration κ)} {u : Ty κ} :
    u ∈ contents rs ↔ .optional u ∈ rs := by
  rw [contents, List.mem_toFinset, List.mem_filterMap]
  simp only [content?_eq_some, exists_eq_right]

end Registration

variable [DecidableEq κ]

/-- A converter is found exactly for the pairs in the list. -/
lemma isSome_findConverter? {cs : List (Conversion κ)} {s t : Ty κ} :
    (findConverter? cs s t).isSome = true ↔ (s, t) ∈ cs.map Conversion.pair := by
  induction cs with
  | nil => exact ⟨nofun, nofun⟩
  | cons c cs ih =>
    rw [List.map_cons, List.mem_cons]
    by_cases e : c.pair = (s, t)
    · cases e
      rw [Registry.findConverter?_cons_self]
      exact iff_of_true rfl (.inl rfl)
    · rw [Registry.findConverter?_cons_of_ne e, ih]
      exact (or_iff_right fun h => e h.symm).symm

namespace Context

/-- The converters in force and the records are those of the conversions, brought in this order. -/
structure Follows (cs : List (Conversion κ)) (made : Logged (Context κ)) : Prop where
  converter : ∀ s t f, made.value.find? s t = some f ↔ LastBy Conversion.pair ⟨s, t, f⟩ cs
  records : made.records = (Conversion.replacing cs).map fun c =>
    ⟨.debug, "replaced conversion from `" ++ c.source.name ++ "` to `" ++ c.target.name ++ "`"⟩

namespace Follows

variable {cs : List (Conversion κ)} {made : Logged (Context κ)}

/-- Exactly the pairs of the conversions brought are taken. -/
lemma contains_iff_mem (h : Follows cs made) {s t : Ty κ} :
    made.value.contains s t = true ↔ (s, t) ∈ cs.map Conversion.pair := by
  rw [contains_iff]
  constructor
  · rintro ⟨f, hf⟩
    exact List.mem_map.2 ⟨_, ((h.converter s t f).1 hf).mem, rfl⟩
  · intro mem
    obtain ⟨⟨s', t', f⟩, last, e⟩ := exists_lastBy mem
    cases e
    exact ⟨f, (h.converter _ _ _).2 last⟩

/-- Registering a conversion brings it after the others. -/
lemma register (h : Follows cs made) (c : Conversion κ) :
    Follows (cs ++ [c]) (made.bind (·.register c)) where
  converter s t f := by
    have step : (made.bind (·.register c)).value.find? s t = (made.value.insert c).find? s t := rfl
    rw [step, lastBy_concat]
    by_cases e : c.pair = (s, t)
    · obtain ⟨s, t, run⟩ := c
      cases e
      rw [find?_insert_self, Option.some.injEq]
      constructor
      · rintro rfl
        exact .inl rfl
      · rintro (e | ⟨ne, _⟩)
        · cases e
          rfl
        · exact absurd rfl ne
    · rw [find?_insert_of_ne e, h.converter]
      constructor
      · exact fun last => .inr ⟨e, last⟩
      · rintro (rfl | ⟨_, last⟩)
        · exact absurd rfl e
        · exact last
  records := by
    rw [Logged.records_bind, h.records, Conversion.replacing_concat, List.map_append]
    congr 1
    have taken : made.value.contains c.source c.target = true ↔ c.pair ∈ cs.map Conversion.pair :=
      h.contains_iff_mem
    simp only [Context.register, taken]
    split
    · rfl
    · rfl

/-- Registering a nullable type is registering its boxing and then its unboxing. -/
lemma registerOptional (h : Follows cs made) (u : Ty κ) :
    Follows (cs ++ [.box u, .unbox u]) (made.bind (·.registerOptional u)) := by
  have both := (h.register (.box u)).register (.unbox u)
  rw [List.append_assoc] at both
  refine ⟨both.converter, Eq.trans ?_ both.records⟩
  rw [Logged.bind_assoc]
  rfl

/-- A registration brings its conversions after the others. -/
lemma apply (h : Follows cs made) (r : Registration κ) :
    Follows (cs ++ r.conversions) (made.bind (·.apply r)) := by
  cases r with
  | conversion c => exact h.register c
  | optional u => exact h.registerOptional u

/-- Registrations bring their conversions after the others, in their order. -/
lemma extend (h : Follows cs made) (rs : List (Registration κ)) :
    Follows (cs ++ rs.flatMap Registration.conversions) (made.bind (·.extend rs)) := by
  -- on the registrations, for anything made before them
  induction rs generalizing cs made with
  | nil =>
    rw [List.flatMap_nil, List.append_nil]
    refine ⟨h.converter, ?_⟩
    rw [← h.records]
    exact List.append_nil _
  | cons r rs ih =>
    have later := ih (h.apply r)
    rw [List.append_assoc, ← List.flatMap_cons, Logged.bind_assoc] at later
    exact later

end Follows

/-- Registrations in an empty context leave the conversions that they brought. -/
lemma follows_extend (rs : List (Registration κ)) :
    Follows (rs.flatMap Registration.conversions) (Context.empty.extend rs) := by
  have start : Follows [] (.pure (Context.empty (κ := κ))) := by
    refine ⟨fun s t f => ⟨nofun, ?_⟩, rfl⟩
    intro last
    cases last.mem
  exact start.extend rs

/-- Each pair for which a conversion was brought counts once. -/
lemma Follows.size_eq {cs : List (Conversion κ)} {made : Logged (Context κ)}
    (h : Follows cs made) : made.value.size = (cs.map Conversion.pair).toFinset.card := by
  have same : ∀ p, p ∈ made.value.registry.conversions.map Conversion.pair ↔
      p ∈ cs.map Conversion.pair :=
    fun _ => isSome_findConverter?.symm.trans h.contains_iff_mem
  calc made.value.size = (made.value.registry.conversions.map Conversion.pair).length :=
        (List.length_map _).symm
    _ = (made.value.registry.conversions.map Conversion.pair).toFinset.card :=
        (List.toFinset_card_of_nodup made.value.registry.nodup).symm
    _ = (cs.map Conversion.pair).toFinset.card := by
        congr 1
        ext p
        rw [List.mem_toFinset, List.mem_toFinset, same]

/-- Each type over which the optional type was made nullable counts once. -/
lemma length_optionals_extend (rs : List (Registration κ)) :
    (Context.empty.extend rs).value.optionals.length = (Registration.contents rs).card := by
  rw [← List.toFinset_card_of_nodup (Context.empty.extend rs).value.nodup]
  congr 1
  ext u
  rw [List.mem_toFinset, mem_optionals_extend, Registration.mem_contents]
  exact or_iff_left List.not_mem_nil

/-- Each nullable type takes up two conversions, its boxing and its unboxing. -/
lemma two_mul_length_optionals_le (ctx : Context κ) : 2 * ctx.optionals.length ≤ ctx.size := by
  let boxing := ctx.optionals.map fun u => (u, Ty.option u)
  let unboxing := ctx.optionals.map fun u => (Ty.option u, u)
  -- boxing adds a layer and unboxing takes one off, so that no pair is for both
  have apart : ∀ p ∈ boxing, ∀ q ∈ unboxing, p ≠ q := by
    intro p hp q hq
    obtain ⟨u, _, rfl⟩ := List.mem_map.1 hp
    obtain ⟨w, _, rfl⟩ := List.mem_map.1 hq
    intro e
    have inner := congrArg Ty.depth (Prod.mk.inj e).1
    have outer := congrArg Ty.depth (Prod.mk.inj e).2
    simp only [Ty.depth] at inner outer
    omega
  have nodup : (boxing ++ unboxing).Nodup := by
    refine List.nodup_append.2 ⟨ctx.nodup.map ?_, ctx.nodup.map ?_, apart⟩
    · exact fun u w e => (Prod.mk.inj e).1
    · exact fun u w e => (Prod.mk.inj e).2
  have registered : boxing ++ unboxing ⊆ ctx.registry.conversions.map Conversion.pair := by
    intro p hp
    obtain hp | hp := List.mem_append.1 hp
    · obtain ⟨u, hu, rfl⟩ := List.mem_map.1 hp
      exact isSome_findConverter?.1 (ctx.boxed u hu)
    · obtain ⟨u, hu, rfl⟩ := List.mem_map.1 hp
      exact isSome_findConverter?.1 (ctx.unboxed u hu)
  have le := (List.subperm_of_subset nodup registered).length_le
  rw [List.length_append, List.length_map, List.length_map, List.length_map] at le
  rw [Nat.two_mul]
  exact le

/-- A context, and the records of its making, as registrations leave them. -/
structure LeftBy (rs : List (Registration κ)) (made : Logged (Context κ)) : Prop
    extends Follows (rs.flatMap Registration.conversions) made where
  used : ∀ s t f, LastBy Conversion.pair ⟨s, t, f⟩ (rs.flatMap Registration.conversions) →
    s ≠ t → ∀ v rendering, made.value.convert (.stored ⟨s, v⟩ rendering) t =
      .after (.hop s t) (.ran f v)
  size : made.value.size = (Registration.pairs rs).card
  optionals : made.value.optionals.length = (Registration.contents rs).card
  debug : made.value.debug =
    "ConversionContext \x7b converters: "
      ++ String.ofList (Digits.ofNat (Registration.pairs rs).card) ++ ", optionals: "
      ++ String.ofList (Digits.ofNat (Registration.contents rs).card) ++ " \x7d"
  boxes : ∀ u, .optional u ∈ rs →
    made.value.contains u (.option u) = true ∧ made.value.contains (.option u) u = true
  room : 2 * made.value.optionals.length ≤ made.value.size

/-- A context shows how many conversions and how many nullable types it has. -/
lemma debug_eq {ctx : Context κ} {m n : Nat} (size : ctx.size = m)
    (optionals : ctx.optionals.length = n) : ctx.debug =
      "ConversionContext \x7b converters: " ++ String.ofList (Digits.ofNat m) ++ ", optionals: "
        ++ String.ofList (Digits.ofNat n) ++ " \x7d" := by
  subst size optionals
  rfl

/-- A run of registrations in an empty context leaves the last conversions and counts each once. -/
lemma leftBy_extend (rs : List (Registration κ)) : LeftBy rs (Context.empty.extend rs) := by
  have follows := follows_extend rs
  have size : (Context.empty.extend rs).value.size = (Registration.pairs rs).card :=
    follows.size_eq
  have optionals := length_optionals_extend rs
  refine ⟨follows, ?_, size, optionals, debug_eq size optionals, ?_,
    two_mul_length_optionals_le _⟩
  · intro s t f last ne v rendering
    rw [convert_of_ne ne]
    exact (Searches.direct ((follows.converter s t f).2 last)).eq_search
  · intro u hu
    have nullable : u ∈ (Context.empty.extend rs).value.optionals :=
      mem_optionals_extend.2 (.inl hu)
    exact ⟨boxed _ u nullable, unboxed _ u nullable⟩

/-- Two runs of registrations have the same last conversion for each pair and make the same types
nullable. -/
structure SameEnd (rs rs' : List (Registration κ)) : Prop where
  last : ∀ c : Conversion κ, LastBy Conversion.pair c (rs.flatMap Registration.conversions) ↔
    LastBy Conversion.pair c (rs'.flatMap Registration.conversions)
  optionals : ∀ u, .optional u ∈ rs ↔ .optional u ∈ rs'

/-- Two contexts do the same and show the same. -/
structure ActAlike (ctx ctx' : Context κ) : Prop where
  convert : ∀ a t, ctx.convert a t = ctx'.convert a t
  supports : ∀ s t, ctx.supports s t = ctx'.supports s t
  acceptsNull : ∀ t, ctx.acceptsNull t = ctx'.acceptsNull t
  size : ctx.size = ctx'.size
  debug : ctx.debug = ctx'.debug

namespace SameEnd

variable {rs rs' : List (Registration κ)}

/-- Runs with the same end bring conversions for the same pairs. -/
lemma pairs_eq (h : SameEnd rs rs') : Registration.pairs rs = Registration.pairs rs' := by
  have mem_iff : ∀ {cs : List (Conversion κ)} {p},
      p ∈ cs.map Conversion.pair ↔ ∃ c : Conversion κ, LastBy Conversion.pair c cs ∧ c.pair = p :=
    ⟨exists_lastBy, fun ⟨c, last, e⟩ => List.mem_map.2 ⟨c, last.mem, e⟩⟩
  ext p
  rw [Registration.pairs, Registration.pairs, List.mem_toFinset, List.mem_toFinset, mem_iff,
    mem_iff]
  simp only [h.last]

/-- Runs with the same end make the same types nullable. -/
lemma contents_eq (h : SameEnd rs rs') : Registration.contents rs = Registration.contents rs' := by
  ext u
  rw [Registration.mem_contents, Registration.mem_contents, h.optionals]

/-- Runs with the same end leave the same nullable types and the same converters. -/
lemma agreeOn (h : SameEnd rs rs') : AgreeOn (fun _ _ => True) (Context.empty.extend rs).value
    (Context.empty.extend rs').value where
  optionals u := by rw [mem_optionals_extend, mem_optionals_extend, h.optionals]
  converters s t _ := by
    ext f
    rw [(follows_extend rs).converter, (follows_extend rs').converter, h.last]

/-- Runs with the same end leave contexts that cannot be told apart. -/
lemma actAlike (h : SameEnd rs rs') :
    ActAlike (Context.empty.extend rs).value (Context.empty.extend rs').value := by
  have agree : AgreeOn (· ≠ ·) (Context.empty.extend rs).value (Context.empty.extend rs').value :=
    ⟨h.agreeOn.optionals, fun s t _ => h.agreeOn.converters s t trivial⟩
  refine ⟨agree.convert_eq, agree.supports_eq, agree.acceptsNull_eq, ?_, ?_⟩
  · rw [(leftBy_extend rs).size, (leftBy_extend rs').size, h.pairs_eq]
  · rw [(leftBy_extend rs).debug, (leftBy_extend rs').debug, h.pairs_eq, h.contents_eq]

end SameEnd

/-- From either start, a run of registrations leaves the last conversion for each pair in force,
counts each pair and each nullable type once, records each conversion that takes the place of
another, and keeps the boxing and unboxing of the nullable types; and what it leaves depends on its
end alone. -/
theorem extend_last_counts (start : Start) (rs : List (Registration κ)) :
    LeftBy (start.registrations ++ rs) (start.extend rs) ∧
    ∀ rs', SameEnd (start.registrations ++ rs) (start.registrations ++ rs') →
      ActAlike (start.extend rs).value (start.extend rs').value := by
  rw [start.extend_eq]
  refine ⟨leftBy_extend _, ?_⟩
  intro rs' same
  rw [start.extend_eq]
  exact same.actAlike

namespace Replaced

open Detour (byte word four wide)

/-- A conversion in the place of a standard one. -/
def former : Conversion Empty := ⟨byte, word, fun _ => .error (.mistyped "u32")⟩

/-- Another one for the same pair. -/
def latter : Conversion Empty := ⟨byte, word, fun _ => .ok wide⟩

/-- Registrations of which the last one replaces the first. -/
def twice : List (Registration Empty) :=
  [.conversion former, .optional (.option byte), .conversion latter]

/-- Registrations of what the others leave, in another order. -/
def once : List (Registration Empty) :=
  [.conversion latter, .optional (.option byte)]

/-- Both runs have the same end: what was replaced is not in it. -/
lemma sameEnd (start : Start) :
    SameEnd (start.registrations ++ twice) (start.registrations ++ once) where
  last c := by
    have boxing : (Conversion.box (Ty.option byte)).pair ≠ latter.pair := by decide
    have unboxing : (Conversion.unbox (Ty.option byte)).pair ≠ latter.pair := by decide
    have same : former.pair = latter.pair := rfl
    have two : (Registration.optional (Ty.option byte)).conversions =
        [.box (.option byte)] ++ [.unbox (.option byte)] := rfl
    have one (d : Conversion Empty) : (Registration.conversion d).conversions = [d] := rfl
    simp only [twice, once, List.flatMap_append, List.flatMap_cons, List.flatMap_nil,
      List.append_nil, two, one, ← List.append_assoc, lastBy_concat]
    grind
  optionals u := by simp [twice, once]

/-- After the standard context, both runs have the same end, so what they leave acts alike. -/
theorem last_counts_latter :
    SameEnd ((Start.standard true).registrations ++ twice)
      ((Start.standard true).registrations ++ once) ∧
    ActAlike ((Start.standard true).extend twice).value ((Start.standard true).extend once).value :=
  ⟨sameEnd _, (extend_last_counts (.standard true) twice).2 once (sameEnd _)⟩

end Replaced

end Context

end TypedArguments
