import LanguageDetection.Text.Charset.Family

namespace LanguageDetection.Text.Charset.Family

def baltic : Family := .latin "āąčėęēģīįķļņšūųž" "
_šCįEžEķLāMūMčNģNēOļOīPąSņT
ašGžIļMčPņPķV
bėHūHāIēLųOęPīQ
cīIēMūT
dėGžGēHīLāMąOųQūX
ešIļKžKņMčPģPāTķV
gūLųLėMāNļOžTēW
hēX
išDņEųEčKāOžPģQūQļTąU
jāFųJūLēVėW
kāEėKļLšMąOūPųPčWęW
lāFėHīIēKąLūNųNįPčWšWžW
māFėGųJąKēKīOžPčVūV
nėCāFųJąKēKčMīNžPūW
oņOčPļPšP
pēGāJėJīMļPūV
rīDāFėIēKšLūLųLčMįMžNąOęO
sėGēJīJāKąMųNčPęPūV
tāBėGųIīJąKšMūMęOįOžPēS
užLšOķQčVāX
vēFėHīIāJąPęPįPųX
yčLšW
zīFāPņPēQųUąW
ā_DsDjEkFrFdHlImItIcJnJbNvOiQpQzTņTfUgVžWļX
ą_CžNsQrV
čiAuPeQaSoUūV
ė_AsDjElGmHtJdMgMnMrOvTžW
ę_KsOžW
ētFjHrHsHcIkIlI_LdMnMmNļOzSģVvW
ģiJeP
ībCvFgHtIdK_McMkMsMrNmOpPzPjQnQlRģWķWšW
į_GmLsLžMvNrPtPlVkW
ķiKīMeNūW
ļaIuJiOāOoP_RšTeWūW
ņaJšKiLoMāMuNeOēPģW
šiEaGuIkJtJ_KeKvKyKčLėLcMķMsOīPjUmVoWpWēW
ūkItJnLrLsLcQdQzRjWmWķWņWšW_XpX
ų_BsW
žiDeHmHvJoKaLdLyMuNnOtPēP_TėVšWāXīX"

end LanguageDetection.Text.Charset.Family
