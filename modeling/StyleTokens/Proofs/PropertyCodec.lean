import StyleTokens.Name.Property
import StyleTokens.Proofs.NamePatterns

open scoped Computability

namespace StyleTokens

namespace Property

open Name (oneOf lowers digits)

-- [a-z0-9][a-z0-9-]*
def variantPattern : Language Char := oneOf (lowers ∪ digits) * (oneOf (lowers ∪ digits ∪ {'-'}))∗

-- -?[a-z][a-z0-9-]*
def cssPattern : Language Char := (1 + oneOf {'-'}) * (oneOf lowers * (oneOf (lowers ∪ digits ∪ {'-'}))∗)

theorem isVariant_iff {text : List Char} : isVariant text = true ↔ text ∈ variantPattern := by
  rw [isVariant, Name.isWord_iff, Name.lowersDigits_eq, Name.lowerRest_eq]
  rfl

theorem isCssProperty_iff {text : List Char} : isCssProperty text = true ↔ text ∈ cssPattern := by
  rw [cssPattern, ← Name.lowerRest_eq, ← Name.lowers_eq, add_mul, one_mul, Language.mem_add, ← Name.isWord_iff,
    Language.mem_mul]
  constructor
  · intro css
    unfold isCssProperty at css
    split at css
    · rename_i text
      exact .inr ⟨['-'], ⟨'-', rfl, rfl⟩, text, Name.isWord_iff.mp css, rfl⟩
    · exact .inl css
  · rintro (plain | ⟨_, ⟨_, rfl, rfl⟩, text, css, rfl⟩)
    · unfold isCssProperty
      split
      · cases plain
      · exact plain
    · exact Name.isWord_iff.mpr css

theorem isVariant_lacks {text : List Char} {c : Char} (variant : isVariant text = true)
    (outside : Name.isLowerRest c = false) : c ∉ text :=
  Name.isWord_free variant (Bool.or_eq_false_iff.mp outside).1 outside

theorem isCssProperty_lacks {text : List Char} {c : Char} (css : isCssProperty text = true)
    (outside : Name.isLowerRest c = false) : c ∉ text := by
  obtain ⟨plain, noHyphen⟩ := Bool.or_eq_false_iff.mp outside
  have lower : Name.isLower c = false := (Bool.or_eq_false_iff.mp plain).1
  unfold isCssProperty at css
  split at css
  · exact mt List.mem_cons.mp (not_or.mpr ⟨by simpa using noHyphen, Name.isWord_free css lower outside⟩)
  · exact Name.isWord_free css lower outside

theorem isVariant_free {text : List Char} (variant : isVariant text = true) : separator ∉ text :=
  isVariant_lacks variant rfl

theorem isCssProperty_free {text : List Char} (css : isCssProperty text = true) : separator ∉ text :=
  isCssProperty_lacks css rfl

-- The longest run of variant characters ends at the separator, which is none of them.
theorem afterVariant?_eq_some {text after : List Char} :
    afterVariant? text = some after ↔ ∃ variant, isVariant variant = true ∧ text = variant ++ separator :: after := by
  constructor
  · intro found
    unfold afterVariant? at found
    split at found
    · cases found
    · rename_i c rest
      split at found
      · rename_i starts
        split at found
        · rename_i stop left
          cases Option.some.inj found
          refine ⟨c :: rest.takeWhile Name.isLowerRest, ?_, ?_⟩
          · rw [isVariant, Name.isWord, starts, Bool.true_and, List.all_takeWhile]
          · rw [List.cons_append, separator, ← left, List.takeWhile_append_dropWhile]
        · cases found
      · cases found
  · rintro ⟨variant, shape, rfl⟩
    cases variant with
    | nil => cases shape
    | cons c cs =>
      rw [isVariant, Name.isWord, Bool.and_eq_true, List.all_eq_true] at shape
      have left : (cs ++ separator :: after).dropWhile Name.isLowerRest = separator :: after := by
        rw [List.dropWhile_append_of_pos shape.2]
        rfl
      rw [List.cons_append, afterVariant?, if_pos shape.1, left]
      rfl

theorem isName_iff {name : String} :
    isName name = true ↔
      (∃ variant css, isVariant variant = true ∧ isCssProperty css = true ∧
        name.toList = variant ++ separator :: css) ∨
      ∃ responsive selector css, isVariant responsive = true ∧ isVariant selector = true ∧ isCssProperty css = true ∧
        name.toList = responsive ++ separator :: (selector ++ separator :: css) := by
  unfold isName
  constructor
  · intro shape
    split at shape
    · cases shape
    · rename_i after first
      obtain ⟨variant, isFirst, split⟩ := afterVariant?_eq_some.mp first
      rcases Bool.or_eq_true_iff.mp shape with css | more
      · exact .inl ⟨variant, after, isFirst, css, split⟩
      · obtain ⟨css, second, isCss⟩ := (Option.any_eq_true ..).mp more
        obtain ⟨selector, isSecond, rfl⟩ := afterVariant?_eq_some.mp second
        exact .inr ⟨variant, selector, css, isFirst, isSecond, isCss, split⟩
  · rintro (⟨variant, css, isFirst, isCss, split⟩ | ⟨responsive, selector, css, isFirst, isSecond, isCss, split⟩)
    · rw [afterVariant?_eq_some.mpr ⟨variant, isFirst, split⟩]
      simp [isCss]
    · rw [afterVariant?_eq_some.mpr ⟨responsive, isFirst, split⟩]
      simp [afterVariant?_eq_some.mpr ⟨selector, isSecond, rfl⟩, isCss]

-- A name begins with a letter or a digit.
theorem not_isName_of_mark {name : String} {rest : List Char} (marked : name.toList = '$' :: rest) :
    isName name = false := by
  rw [isName, marked]
  rfl

theorem isName_lacks {name : String} {c : Char} (isName : isName name = true) (outside : Name.isLowerRest c = false)
    (other : c ≠ separator) : c ∉ name.toList := by
  rcases isName_iff.mp isName with
    ⟨variant, css, isFirst, isCss, split⟩ | ⟨responsive, selector, css, isFirst, isSecond, isCss, split⟩
  · simp [split, other, isVariant_lacks isFirst outside, isCssProperty_lacks isCss outside]
  · simp [split, other, isVariant_lacks isFirst outside, isVariant_lacks isSecond outside,
      isCssProperty_lacks isCss outside]

section

variable {config : Config} {name : String}

theorem decode?_one {variant css : List Char} (isFirst : isVariant variant = true) (isCss : isCssProperty css = true)
    (split : name.toList = variant ++ separator :: css) :
    decode? config name = ofPieces? config [String.ofList variant, String.ofList css] := by
  have shape : isName name = true := isName_iff.mpr (.inl ⟨variant, css, isFirst, isCss, split⟩)
  rw [decode?, if_pos shape, split, Name.pieces_append (isVariant_free isFirst),
    Name.pieces_free (isCssProperty_free isCss)]
  rfl

theorem decode?_two {responsive selector css : List Char} (isFirst : isVariant responsive = true)
    (isSecond : isVariant selector = true) (isCss : isCssProperty css = true)
    (split : name.toList = responsive ++ separator :: (selector ++ separator :: css)) :
    decode? config name =
      ofPieces? config [String.ofList responsive, String.ofList selector, String.ofList css] := by
  have shape : isName name = true := isName_iff.mpr (.inr ⟨responsive, selector, css, isFirst, isSecond, isCss, split⟩)
  rw [decode?, if_pos shape, split, Name.pieces_append (isVariant_free isFirst),
    Name.pieces_append (isVariant_free isSecond), Name.pieces_free (isCssProperty_free isCss)]
  rfl

end

-- What a property must be to be found again under its own name. A name that is both a responsive variant and a
-- selector is read as the former when it stands alone.
structure Readable (config : Config) (property : Property) : Prop where
  varied : property.responsive.isSome = true ∨ property.selector.isSome = true
  responsiveShape : ∀ name ∈ property.responsive, name.toList ∈ variantPattern
  selectorShape : ∀ name ∈ property.selector, name.toList ∈ variantPattern
  cssShape : property.cssProperty.toList ∈ cssPattern
  responsiveKnown : ∀ name ∈ property.responsive, (config.responsive.get? name).isSome = true
  selectorKnown : ∀ name ∈ property.selector, (config.selectors.get? name).isSome = true
  unambiguous : ∀ name ∈ property.selector, property.responsive = none → config.responsive.get? name = none

namespace Readable

variable {config : Config} {variant responsive selector css : List Char}

theorem ofResponsive (isFirst : isVariant variant = true) (isCss : isCssProperty css = true)
    (known : config.hasResponsive (String.ofList variant) = true) :
    Readable config ⟨some (String.ofList variant), none, String.ofList css⟩ where
  varied := .inl rfl
  responsiveShape := by simpa [← isVariant_iff] using isFirst
  selectorShape := by simp
  cssShape := by simpa [← isCssProperty_iff] using isCss
  responsiveKnown := by simpa [Config.hasResponsive, Table.contains] using known
  selectorKnown := by simp
  unambiguous := by simp

theorem ofSelector (isFirst : isVariant variant = true) (isCss : isCssProperty css = true)
    (notResponsive : ¬ config.hasResponsive (String.ofList variant) = true)
    (known : config.hasSelector (String.ofList variant) = true) :
    Readable config ⟨none, some (String.ofList variant), String.ofList css⟩ where
  varied := .inr rfl
  responsiveShape := by simp
  selectorShape := by simpa [← isVariant_iff] using isFirst
  cssShape := by simpa [← isCssProperty_iff] using isCss
  responsiveKnown := by simp
  selectorKnown := by simpa [Config.hasSelector, Table.contains] using known
  unambiguous := by simpa [Config.hasResponsive, Table.contains] using notResponsive

theorem ofBoth (isFirst : isVariant responsive = true) (isSecond : isVariant selector = true)
    (isCss : isCssProperty css = true) (known : config.hasResponsive (String.ofList responsive) = true)
    (knownSelector : config.hasSelector (String.ofList selector) = true) :
    Readable config ⟨some (String.ofList responsive), some (String.ofList selector), String.ofList css⟩ where
  varied := .inl rfl
  responsiveShape := by simpa [← isVariant_iff] using isFirst
  selectorShape := by simpa [← isVariant_iff] using isSecond
  cssShape := by simpa [← isCssProperty_iff] using isCss
  responsiveKnown := by simpa [Config.hasResponsive, Table.contains] using known
  selectorKnown := by simpa [Config.hasSelector, Table.contains] using knownSelector
  unambiguous := by simp

end Readable

theorem toList_encode (property : Property) :
    property.encode.toList =
      (property.responsive.elim [] fun name => name.toList ++ [separator]) ++
        (property.selector.elim [] fun name => name.toList ++ [separator]) ++ property.cssProperty.toList := by
  obtain ⟨responsive, selector, css⟩ := property
  cases responsive <;> cases selector <;> simp [encode]

theorem isName_of_decode? {config : Config} {name : String} {property : Property}
    (decoded : decode? config name = some property) : isName name = true := by
  by_contra other
  rw [decode?, if_neg other] at decoded
  cases decoded

theorem readable_of_decode? {config : Config} {name : String} {property : Property}
    (decoded : decode? config name = some property) : property.encode = name ∧ property.Readable config := by
  rcases isName_iff.mp (isName_of_decode? decoded) with
    ⟨variant, css, isFirst, isCss, split⟩ | ⟨responsive, selector, css, isFirst, isSecond, isCss, split⟩
  · rw [decode?_one isFirst isCss split, ofPieces?] at decoded
    split at decoded
    · rename_i known
      cases decoded
      refine ⟨String.toList_injective ?_, .ofResponsive isFirst isCss known⟩
      simp [toList_encode, split]
    · rename_i notResponsive
      split at decoded
      · rename_i known
        cases decoded
        refine ⟨String.toList_injective ?_, .ofSelector isFirst isCss notResponsive known⟩
        simp [toList_encode, split]
      · cases decoded
  · rw [decode?_two isFirst isSecond isCss split, ofPieces?] at decoded
    split at decoded
    · rename_i known
      rw [Bool.and_eq_true] at known
      cases decoded
      refine ⟨String.toList_injective ?_, .ofBoth isFirst isSecond isCss known.1 known.2⟩
      simp [toList_encode, split]
    · cases decoded

theorem decode?_of_readable {config : Config} {property : Property} (readable : property.Readable config) :
    decode? config property.encode = some property := by
  obtain ⟨responsive, selector, css⟩ := property
  have isCss := isCssProperty_iff.mpr readable.cssShape
  cases responsive with
  | none =>
    cases selector with
    | none => simpa using readable.varied
    | some selector =>
      have notResponsive : config.hasResponsive selector = false := by
        simpa [Config.hasResponsive, Table.contains] using readable.unambiguous selector rfl rfl
      have known : config.hasSelector selector = true := readable.selectorKnown selector rfl
      rw [decode?_one (isVariant_iff.mpr (readable.selectorShape selector rfl)) isCss (by simp [toList_encode])]
      simp [ofPieces?, notResponsive, known]
  | some responsive =>
    have isFirst := isVariant_iff.mpr (readable.responsiveShape responsive rfl)
    have known : config.hasResponsive responsive = true := readable.responsiveKnown responsive rfl
    cases selector with
    | none =>
      rw [decode?_one isFirst isCss (by simp [toList_encode])]
      simp [ofPieces?, known]
    | some selector =>
      have knownSelector : config.hasSelector selector = true := readable.selectorKnown selector rfl
      rw [decode?_two isFirst (isVariant_iff.mpr (readable.selectorShape selector rfl)) isCss
        (by simp [toList_encode])]
      simp [ofPieces?, known, knownSelector]

-- The texts that a property is made of.
def parts (property : Property) : List String :=
  property.responsive.toList ++ property.selector.toList ++ [property.cssProperty]

theorem Readable.parts_free {config : Config} {property : Property} (readable : property.Readable config)
    {part : String} (member : part ∈ property.parts) : separator ∉ part.toList := by
  simp only [parts, List.mem_append, Option.mem_toList, List.mem_singleton] at member
  rcases member with (isResponsive | isSelector) | rfl
  · exact isVariant_free (isVariant_iff.mpr (readable.responsiveShape part isResponsive))
  · exact isVariant_free (isVariant_iff.mpr (readable.selectorShape part isSelector))
  · exact isCssProperty_free (isCssProperty_iff.mpr readable.cssShape)

-- With a variant present, the CSS property follows a separator.
theorem Readable.encode_css {config : Config} {property : Property} (readable : property.Readable config) :
    ∃ front, property.encode.toList = front ++ separator :: property.cssProperty.toList := by
  obtain ⟨responsive, selector, css⟩ := property
  cases responsive with
  | none =>
    cases selector with
    | none => simpa using readable.varied
    | some selector => exact ⟨selector.toList, by simp [toList_encode]⟩
  | some responsive =>
    cases selector with
    | none => exact ⟨responsive.toList, by simp [toList_encode]⟩
    | some selector => exact ⟨responsive.toList ++ separator :: selector.toList, by simp [toList_encode]⟩

-- Reading a name and writing the property undo each other, and the properties that survive are those that
-- the shapes and the config allow.
theorem property_round_trip (config : Config) :
    (∀ name property, decode? config name = some property →
      property.encode = name ∧
      (∃ front, name.toList = front ++ '$' :: property.cssProperty.toList) ∧
      ∀ part ∈ property.parts, '$' ∉ part.toList) ∧
    ∀ property : Property, decode? config property.encode = some property ↔ property.Readable config := by
  constructor
  · intro name property decoded
    obtain ⟨rfl, readable⟩ := readable_of_decode? decoded
    exact ⟨rfl, readable.encode_css, fun part member => readable.parts_free member⟩
  · intro property
    exact ⟨fun decoded => (readable_of_decode? decoded).2, decode?_of_readable⟩

end Property

end StyleTokens
