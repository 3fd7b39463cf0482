import LanguageDetection.Text.Charset.Family

namespace LanguageDetection.Text.Charset.Family

/-- The letters: a capital I is not the capital of i. -/
def turkishAlphabet : Alphabet where
  isLatin := true
  letters := "âçğıîöşûüáéñ".toList.toArray
  small c := if c == 'I' then 'ı' else if c == 'İ' then 'i' else smallLetter c

def turkish : Family := .ofRows turkishAlphabet "
_çGşHöIıKüM
aşEğHçM
büIöM
cıOüW
dıEüIöL
eşGçKğK
güIöJıS
hüJıQ
işHçIğL
kıEöIüIçPâR
lıEüJçN
mıHüNşX
nıFüMçPşQâXöX
oğHşQçW
pıNçX
rıFüOşP
sıFüMöQ
tıGüGçT
uğIşO
vşX
yıHüJöQ
zıLüT
âyRzX
çeHaIiJoKıL_MtNbPüPuQ
ğuIiJlJrJıKaLdMeM_P
ı_CnCrClFkGmHzIsJşJyKdMğMcOtQçVvWuX
ölHnIyKzLğMrNkRpVsWtX
şiFlGeHtIaJıJ_KkMüPuQbRoVmWhXçX
ünFrFkHlItJ_KmLzMyNşNsOçPfRhRvUbVdW" fun _ _ => false

end LanguageDetection.Text.Charset.Family
