import LanguageDetection.Verdict

namespace LanguageDetection

inductive Policy
  /-- The highest score on the board. -/
  | relativeToLeader (cap : Float)
  /-- The weight of all rules of the winner. -/
  | ruleCoverage (cap : Float)
  deriving Repr

structure Share where
  part : UInt32
  whole : UInt32
  deriving Repr, DecidableEq

def Share.toFloat (share : Share) : Float :=
  if share.whole = 0 then 0.0 else share.part.toFloat / share.whole.toFloat

namespace Policy

def standardCap : Float := 0.98

def compactCap : Float := 0.8

def ofProfile : Profile → Policy
  | .standard => .relativeToLeader standardCap
  | .compact => .ruleCoverage compactCap

def cap : Policy → Float
  | .relativeToLeader cap => cap
  | .ruleCoverage cap => cap

def share (policy : Policy) (winner highest total : UInt32) : Share :=
  match policy with
  | .relativeToLeader _ => ⟨winner, highest⟩
  | .ruleCoverage _ => ⟨winner, total⟩

def atMost (cap x : Float) : Float :=
  if cap < x then cap else x

def confidence (policy : Policy) (winner highest total : UInt32) : Float :=
  clampUnit (atMost policy.cap (policy.share winner highest total).toFloat)

end Policy

end LanguageDetection
