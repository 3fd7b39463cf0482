import LanguageDetection.Text.Charset.Family

namespace LanguageDetection.Text.Charset.Family

def vietnamese : Family := .latin "ăâđêôơư\u0300\u0301\u0303\u0309\u0323àáèéëíîïñóöùúûüçäåæøßÿœ" "
_đCơOăRôTáVưX
a\u0300F\u0323F\u0309I\u0301J\u0303M
bôMăOêRáSâVèV
câLóQáRơSưSôVàX
dưMâRùRêX
e\u0300Q\u0303Q\u0309R\u0323S\u0301W
gưIôMâSáV
hôGưIâJơLêMàMíOúOáRăSèV
iêE\u0300H\u0323K\u0301NơO\u0303S\u0309UáW
kêQ
làMôOơOêPâQúVưX
môMưOơQàUáVèVùVăWâX
năKêQôRưRàRâUóV
o\u0323J\u0300N\u0301N\u0309OàUăW
rưMâPêRơSăTôW
sôLăSơSáTưU
tôJêMưNâOáVíV
u\u0309KôL\u0301MâP\u0300P\u0323P\u0303TêW
vàKơOưPăQêRâWôX
xâSưSáX
yêM\u0301P\u0300U\u0303X
ămLnN\u0300O\u0301O\u0323Q\u0303R\u0309S_U
â\u0301J\u0300K\u0323KnNyNuP\u0309Q\u0303WmX
đôIaJưJiKêLâNoPăPuUóUúVàW
ê\u0323F\u0301H\u0300J\u0309KnL\u0303SmUuU_V
ônG\u0301G\u0323IiJ\u0300M\u0309M\u0303O_PmS
ơ\u0300F\u0301I\u0323JnK\u0309MiSmS_V
ươD\u0303L\u0309M\u0323M\u0301OaS_TnU\u0300UuW
\u0300nC_GiIuKmMoOaRyR
\u0301_GnGcItIiJuOpPmQyQaToVkW
\u0303_JnLiNyVaXuX
\u0309_GaLiLnLoPmQuRyS
\u0323nFcGiItI_JpKuOmQyQaXoX
à_JnNoPyRiSmT
ácPnQiR_TmVoVyVpWtX
è_ToV
ínQ_VaVcW
ó_QiU
ùnQaU
únQcS_V"

end LanguageDetection.Text.Charset.Family
