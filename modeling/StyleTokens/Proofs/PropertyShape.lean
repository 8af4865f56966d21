import StyleTokens.Proofs.PropertyCodec

namespace StyleTokens

namespace Name

-- The splitter of names is the one of the library.
theorem pieces_eq_splitOn (separator : Char) (text : List Char) : pieces separator text = text.splitOn separator := by
  induction text with
  | nil => rfl
  | cons c rest ih =>
    rw [pieces, ih, List.splitOn_cons_eq_if_modifyHead]
    by_cases here : c = separator
    · simp [here]
    · rw [if_neg here, if_neg (by simpa using here)]
      cases later : rest.splitOn separator with
      | nil => exact absurd later (List.splitOn_ne_nil separator rest)
      | cons piece others => rfl

theorem splitOn_eq_iff {separator : Char} {text : List Char} {parts : List (List Char)} (filled : parts ≠ [])
    (free : ∀ part ∈ parts, separator ∉ part) :
    text.splitOn separator = parts ↔ text = [separator].intercalate parts := by
  constructor
  · rintro rfl
    exact (List.intercalate_splitOn separator).symm
  · rintro rfl
    exact List.splitOn_intercalate separator free filled

end Name

namespace Property

open Name (oneOf)

-- [a-z0-9][a-z0-9-]*\$
def closedPattern := variantPattern * oneOf {'$'}

-- (?:[a-z0-9][a-z0-9-]*\$){1,2}-?[a-z][a-z0-9-]*
def namePattern := (closedPattern + closedPattern * closedPattern) * cssPattern

-- The pieces of a name: one or two variants, then a CSS property.
structure Shaped (pieces : List (List Char)) : Prop where
  count : pieces.length = 2 ∨ pieces.length = 3
  variants : ∀ variant ∈ pieces.dropLast, variant ∈ variantPattern
  css : ∀ css ∈ pieces.getLast?, css ∈ cssPattern

-- A variant that stands alone may be of either kind. Of two, each is looked up under its own kind only.
def Undefined (config : Config) : List String → Prop
  | [variant] => config.responsive.get? variant = none ∧ config.selectors.get? variant = none
  | [responsive, selector] => config.responsive.get? responsive = none ∨ config.selectors.get? selector = none
  | _ => False

section

variable {name : String} {text : List Char} {config : Config}

theorem mem_closed_iff :
    text ∈ closedPattern ↔ ∃ variant, isVariant variant = true ∧ text = variant ++ [separator] := by
  rw [closedPattern, Language.mem_mul]
  constructor
  · rintro ⟨variant, shape, _, ⟨_, rfl, rfl⟩, rfl⟩
    exact ⟨variant, isVariant_iff.mpr shape, rfl⟩
  · rintro ⟨variant, shape, rfl⟩
    exact ⟨variant, isVariant_iff.mp shape, [separator], ⟨separator, rfl, rfl⟩, rfl⟩

theorem isName_iff_mem_pattern : isName name = true ↔ name.toList ∈ namePattern := by
  rw [isName_iff, namePattern, add_mul, mul_assoc, Language.mem_add, Language.mem_mul, Language.mem_mul]
  generalize name.toList = text
  constructor
  · rintro (⟨variant, css, isFirst, isCss, rfl⟩ | ⟨responsive, selector, css, isFirst, isSecond, isCss, rfl⟩)
    · exact .inl ⟨variant ++ [separator], mem_closed_iff.mpr ⟨variant, isFirst, rfl⟩, css,
        isCssProperty_iff.mp isCss, by simp⟩
    · refine .inr ⟨responsive ++ [separator], mem_closed_iff.mpr ⟨responsive, isFirst, rfl⟩,
        selector ++ separator :: css, ?_, by simp⟩
      exact Language.mem_mul.mpr ⟨selector ++ [separator], mem_closed_iff.mpr ⟨selector, isSecond, rfl⟩, css,
        isCssProperty_iff.mp isCss, by simp⟩
  · rintro (⟨closed, first, css, isCss, rfl⟩ | ⟨closed, first, rest, later, rfl⟩)
    · obtain ⟨variant, isFirst, rfl⟩ := mem_closed_iff.mp first
      exact .inl ⟨variant, css, isFirst, isCssProperty_iff.mpr isCss, by simp⟩
    · obtain ⟨responsive, isFirst, rfl⟩ := mem_closed_iff.mp first
      obtain ⟨closed, second, css, isCss, rfl⟩ := Language.mem_mul.mp later
      obtain ⟨selector, isSecond, rfl⟩ := mem_closed_iff.mp second
      exact .inr ⟨responsive, selector, css, isFirst, isSecond, isCssProperty_iff.mpr isCss, by simp⟩

-- The matcher finds its parts from the left, the splitter cuts at every separator. They meet because no part of a name
-- has a separator in it.
theorem isName_iff_split :
    isName name = true ↔
      (∃ variant css, isVariant variant = true ∧ isCssProperty css = true ∧
        name.toList.splitOn separator = [variant, css]) ∨
      ∃ responsive selector css, isVariant responsive = true ∧ isVariant selector = true ∧ isCssProperty css = true ∧
        name.toList.splitOn separator = [responsive, selector, css] := by
  rw [isName_iff]
  apply or_congr
  · refine exists_congr fun variant => exists_congr fun css =>
      and_congr_right fun isFirst => and_congr_right fun isCss => ?_
    rw [Name.splitOn_eq_iff (by simp) (by simp [isVariant_free isFirst, isCssProperty_free isCss])]
    simp [List.intercalate]
  · refine exists_congr fun responsive => exists_congr fun selector => exists_congr fun css =>
      and_congr_right fun isFirst => and_congr_right fun isSecond => and_congr_right fun isCss => ?_
    rw [Name.splitOn_eq_iff (by simp)
      (by simp [isVariant_free isFirst, isVariant_free isSecond, isCssProperty_free isCss])]
    simp [List.intercalate]

theorem shaped_iff {pieces : List (List Char)} :
    Shaped pieces ↔
      (∃ variant css, isVariant variant = true ∧ isCssProperty css = true ∧ pieces = [variant, css]) ∨
      ∃ responsive selector css, isVariant responsive = true ∧ isVariant selector = true ∧ isCssProperty css = true ∧
        pieces = [responsive, selector, css] := by
  simp only [isVariant_iff, isCssProperty_iff]
  constructor
  · rintro ⟨two | three, variants, last⟩
    · obtain ⟨variant, css, rfl⟩ := List.length_eq_two.mp two
      exact .inl ⟨variant, css, variants variant (by simp), last css rfl, rfl⟩
    · obtain ⟨responsive, selector, css, rfl⟩ := List.length_eq_three.mp three
      exact .inr ⟨responsive, selector, css, variants responsive (by simp), variants selector (by simp),
        last css rfl, rfl⟩
  · rintro (⟨variant, css, isFirst, isCss, rfl⟩ | ⟨responsive, selector, css, isFirst, isSecond, isCss, rfl⟩)
    · exact ⟨.inl rfl, by simpa using isFirst, by simpa using isCss⟩
    · exact ⟨.inr rfl, by simpa using ⟨isFirst, isSecond⟩, by simpa using isCss⟩

theorem decode?_of_isName (shape : isName name = true) :
    decode? config name = ofPieces? config ((name.toList.splitOn separator).map String.ofList) := by
  rw [decode?, if_pos shape, Name.pieces_eq_splitOn]

theorem ofPieces?_one (variant css : String) :
    ofPieces? config [variant, css] = none ↔ Undefined config [variant] := by
  simp only [ofPieces?, Undefined, Config.hasResponsive, Config.hasSelector, Table.contains]
  by_cases responsive : config.responsive.get? variant = none
  · by_cases selector : config.selectors.get? variant = none
    · simp [responsive, selector]
    · simp [responsive, selector, Option.isSome_iff_ne_none.mpr selector]
  · simp [responsive, Option.isSome_iff_ne_none.mpr responsive]

theorem ofPieces?_two (responsive selector css : String) :
    ofPieces? config [responsive, selector, css] = none ↔ Undefined config [responsive, selector] := by
  simp [ofPieces?, Undefined, Config.hasResponsive, Config.hasSelector, Table.contains, imp_iff_not_or]

theorem decode?_eq_none_iff (shape : isName name = true) :
    decode? config name = none ↔
      Undefined config ((name.toList.splitOn separator).dropLast.map String.ofList) := by
  rw [decode?_of_isName shape]
  rcases isName_iff_split.mp shape with
    ⟨variant, css, -, -, split⟩ | ⟨responsive, selector, css, -, -, -, split⟩
  · rw [split]
    exact ofPieces?_one _ _
  · rw [split]
    exact ofPieces?_two _ _ _

end

-- A config with one variant of each kind.
def defining (responsive selector : String) : Config :=
  { responsive := Table.insert ∅ responsive "", selectors := Table.insert ∅ selector "" }

theorem exists_decoding {name : String} (shape : isName name = true) :
    ∃ config, (decode? config name).isSome = true := by
  have defined {config : Config}
      (known : ¬ Undefined config ((name.toList.splitOn separator).dropLast.map String.ofList)) :
      (decode? config name).isSome = true :=
    Option.isSome_iff_ne_none.mpr (mt (decode?_eq_none_iff shape).mp known)
  rcases isName_iff_split.mp shape with
    ⟨variant, css, -, -, split⟩ | ⟨responsive, selector, css, -, -, -, split⟩
  · refine ⟨defining (String.ofList variant) (String.ofList variant), defined ?_⟩
    simp [split, Undefined, defining, Table.get?_insert]
  · refine ⟨defining (String.ofList responsive) (String.ofList selector), defined ?_⟩
    simp [split, Undefined, defining, Table.get?_insert]

-- The pattern, the pieces and the reader under the most favourable config accept the same texts. What is left to the
-- config is whether it has the variants.
theorem name_shape_exact (name : String) :
    (isName name = true ↔ name.toList ∈ namePattern) ∧
    (isName name = true ↔ Shaped (name.toList.splitOn '$')) ∧
    (isName name = true ↔ ∃ config, (decode? config name).isSome = true) ∧
    (isName name = true → ∀ config, decode? config name = none ↔
      Undefined config ((name.toList.splitOn '$').dropLast.map String.ofList)) := by
  refine ⟨isName_iff_mem_pattern, ?_, ⟨exists_decoding, ?_⟩, ?_⟩
  · rw [isName_iff_split, shaped_iff]
    rfl
  · rintro ⟨config, read⟩
    obtain ⟨property, decoded⟩ := Option.isSome_iff_exists.mp read
    exact isName_of_decode? decoded
  · intro shape config
    exact decode?_eq_none_iff shape

end Property

namespace Sample

-- One variant of each kind, named in the wrong order.
theorem swapped_variants_undefined :
    Property.isName "hover$md$-moz-a" = true ∧
      Property.Shaped ["hover".toList, "md".toList, "-moz-a".toList] ∧
      Property.decode? (Property.defining "md" "hover") "hover$md$-moz-a" = none ∧
      (∃ config, (Property.decode? config "hover$md$-moz-a").isSome = true) ∧
      ¬ ∃ config, (Property.decode? config "hover$md$\n").isSome = true := by
  have shape : Property.isName "hover$md$-moz-a" = true := by decide
  have other : ¬ Property.isName "hover$md$\n" = true := by decide
  obtain ⟨-, shaped, decodable, undefined⟩ := Property.name_shape_exact "hover$md$-moz-a"
  refine ⟨shape, shaped.mp shape, ?_, decodable.mp shape, ?_⟩
  · exact (undefined shape _).mpr (.inl (by decide))
  · exact mt (Property.name_shape_exact "hover$md$\n").2.2.1.mpr other

end Sample

end StyleTokens
