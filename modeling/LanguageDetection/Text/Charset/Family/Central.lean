import LanguageDetection.Text.Charset.Family

namespace LanguageDetection.Text.Charset.Family

def central : Family := .latin "áâăäąćçčďđéęëěíîĺľłńňóôőöŕřśşšßţťúůűüýźżž" "
_îAşCéDžDšEčFćGżGśHţIđJłJřJíLöLóMľNúNőOáPďPüQňRôSźT
ałCţDčEşEšEńGžGđHćIťIżJľLďPřRźVňWúWóX
băKáLčLęLěLýMíQľQóQöQéSłTšTřVâWűX
căCíKâOąPóPłSţSşWúWéXůX
dăGžHéIěKőKżKáLíMöNýNźNóOôOůOâPúPľQšQąRčTłUřU
ećCčCšEżFľGžHţIśJşJńKňLđMłNáRťSďTöXřX
făMéMőPöPüPáQâQűVúX
góLłMăOéPęPöPáRšUąVčWâXőX
háKčLłMéNíNóPýQűRľWřWĺX
ićAčBęBšDąGžGłHşIťIţJáMóMńOśPżTíUřU
jąGšJáLęLíMúMčQüQóRöRśS
kéFöFáGýHüKóLąMłNőNúOôPšQćRíSůSęWżWâXčXŕX
láHőHéIăJęJąKóMíNöNţNüOâPšPúQůRčSžUýV
mâGéGěHáIíJăLűLůMôOšOąPłPýPäQčRřSžTóVęWţWżW
níCăEáFéFěGšGţGýJčKőLžLúMąOşPżPöQóUůX
ođEśEžEčFłFšHżJľKćLńLţLřMşMźT
přGăHćIóJłKüKůMâNéNíNôNţOäPáQöRýUěWšWčXľXúX
ráEăFóGšGžGâHčJéJíJţKüKúLđMőNýNęOöOłPůPűRşVťVćW
săCáFłFíIőJťJúJąKéLóPüPöRâTűXýX
tăDéGáHřHóIâKěLíLšLýLöMęNüNőRűRčTúTůTĺX
užCćFčGšHżJăLđOşQťRłSńSáUţW
váFěGíGéIšJäKăLýMöOőRčSâWĺXňX
wóJłLęOąV
yćLóLśMšOőPżPłQéRöSűSáTţVťVžWíXńX
záFéHąJőJüJăKęKłKíMöNóQúRšWűX
árDgEsE_FnFlGvHbJcKdKzKtLmMpMkNjOžPľQřQšRhSčUaX
ânEuIrLmMiNtPlWzX
ă_ArCsJmKpLtLzLţMuNcOdPvPlQnSgViV
äčLťPtQ_SsXzX
ą_EcJżJdKtKgMsNłPbTzTkW
ć_AeCiCaFuIdPsPnW
čeAiBaDkD_EnFuGjIíKoLšLbMáMrPtPlT
ďaM_UuUáW
đeDaHuKiNoOmR
ésA_FhFlFnFrFpItIgJmLvMkNdOcPbQjQzS
ę_FdFcIkKśKćLzMpNbOsTtTżTgU
ě_GtIlKhLsLmNnNdOjPkPřTrUcWžWzX
í_CmGrHcKnKtKhLdMsMvMkNbOžOgQlQšQjRzRčTpX
înAmL
ĺbXpXčX
ľ_JaKnLoMuMbPsPmQkVčX
łoCaD_FyGuJeKóKkLnLąLcPęSgTbVtVsWćWdXmX
ńsF_LcL
ň_MoPaS
ówE_GdHrIłJsLżMlNnOtOcPiPpPźPbQjRfTkTzUvWgX
ôsLžOvPrQňX
ő_FsLtLvLlNdOrOzObQnQgRjRfV
önIrIzIlKkLsLtNvOdPmQgW
ŕdX
řeDiJíJáN_PsSoWuX
ścErIlKćKwLmM_NnN
şiAtGaKoKuL_MeNcObW
ščAkDtD_GeGaHiHnHuHlIoIíKćLvMpPmQľQšQsTrUťVňX
ţiBăFaIuIeL_UkW
ť_IaPtQ
ú_JjMcObPsPzPdQkQgRnTtTrVčWťWlXpXžX
ů_LvNsPžPmRlSňW
űvK_OrVzVsWcXjXkXlXnX
ülDnOsQtQzQrSkVgW
ý_FcJmNvPžPbQdQkQtQšQrSnWsX
ź_OnOlTrTwWńW
żeGyGaHdJnJoJ_LkOuOąPiTóTlUęVcWsX
žeBiCaEnFuG_IdIíLbMáOsRoUjVkWlWňWmXšX"

end LanguageDetection.Text.Charset.Family
