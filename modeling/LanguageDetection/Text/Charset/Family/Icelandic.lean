import LanguageDetection.Text.Charset.Family

namespace LanguageDetection.Text.Charset.Family

def icelandic : Family := .latin "áæéíðóöøúüýþåäßëèçñš" "
_þDáFíFúLöNæOéOóSýX
aðBíQþRóX
böLúLæMíNóS
dóMíPúX
eðHóX
fáNæNóNöQéRíWðW
gðMæNóOíRúW
háLöLúNéUæVíWóW
iðD
jóGöIáKúUíW
kóKúQíRöW
líJóLæNöPýQáRúU
möJáKíOóPéRýX
næMýNíOéRúRþRóU
oðN
píTúVáWóW
rðEíHæIéJúKáMóMöP
síIöNóOáSúSéX
tæIíIóMöNúOáV
uðIóX
víHæKöQ
xíX
yðW
á_GlJtJrKðLsNnOiRkW
æðIkJrJtJdMlMsPnSgTfUvX
étJgNrOlQ_S
í_FsGkInImJðKaNtNbOfQlQuQóQrRgUdVeVvVþX
ð_BaDiDuErLnNsPbQeQmRöRvTjWlWáX
ólHrHðImMnMtM_NaPgPsQpSkThUvUbViX
örGfKgLkLlLnLðN_StVsWmX
únKtKaLsLrN_OlSbUgUdVkVmVpVvWeX
ýsPjQrQðQmXvX
þeHaIvKjLrMúMóPýPáQoTiVuXéX"

end LanguageDetection.Text.Charset.Family
