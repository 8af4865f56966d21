namespace StyleTokens.Text

-- Both ends belong to the class.
abbrev CodeRange := Nat × Nat

-- The ranges ascend, so the search stops at the first one that starts above the code point.
def inRanges : List CodeRange → Nat → Bool
  | [], _ => false
  | (low, high) :: rest, code => if code < low then false else code ≤ high || inRanges rest code

def ascending : List CodeRange → Bool
  | [] => true
  | [(low, high)] => low ≤ high
  | (low, high) :: (low', high') :: rest => low ≤ high && high < low' && ascending ((low', high') :: rest)

end StyleTokens.Text
