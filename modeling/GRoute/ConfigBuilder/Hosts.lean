/-!
# Blocked hosts

The two lists of `ConfigBuilder.kt`: resolvers that would bypass the tunnel's DNS, and
hosts of advertisers and trackers.
-/

namespace GRoute.ConfigBuilder

/-- `DohHosts`. -/
def dohHosts : List String :=
  ["chrome.cloudflare-dns.com", "mozilla.cloudflare-dns.com", "cloudflare-dns.com", "dns.google",
    "dns64.dns.google", "dns.quad9.net", "doh.opendns.com", "dns.nextdns.io",
    "doh.cleanbrowsing.org", "dns.adguard-dns.com"]

/-- `AdHosts`. -/
def adHosts : List String :=
  ["doubleclick.net", "googlesyndication.com", "googleadservices.com", "google-analytics.com",
    "googletagmanager.com", "googletagservices.com", "adservice.google.com", "app-measurement.com",
    "amazon-adsystem.com", "adnxs.com", "adsrvr.org", "bidswitch.net", "rubiconproject.com",
    "pubmatic.com", "casalemedia.com", "openx.net", "smartadserver.com", "criteo.com",
    "criteo.net", "taboola.com", "outbrain.com", "sharethrough.com", "33across.com", "teads.tv",
    "media.net", "adform.net", "serving-sys.com", "flashtalking.com", "revcontent.com", "mgid.com",
    "zedo.com", "advertising.com", "yieldmo.com", "gumgum.com", "indexww.com", "moatads.com",
    "adsafeprotected.com", "doubleverify.com", "scorecardresearch.com", "quantserve.com",
    "demdex.net", "omtrdc.net", "everesttech.net", "2o7.net", "bluekai.com", "krxd.net",
    "agkn.com", "exelator.com", "rlcdn.com", "crwdcntrl.net", "mc.yandex.ru", "clarity.ms",
    "hotjar.com", "fullstory.com", "mouseflow.com", "inspectlet.com", "optimizely.com",
    "mixpanel.com", "amplitude.com", "segment.io", "segment.com", "branch.io", "appsflyer.com",
    "adjust.com", "kochava.com", "singular.net", "tenjin.io", "flurry.com", "braze.com",
    "clevertap.com", "leanplum.com", "applovin.com", "ironsrc.com", "supersonicads.com",
    "unityads.unity3d.com", "vungle.com", "chartboost.com", "adcolony.com", "inmobi.com",
    "mopub.com", "tapjoy.com", "startappservice.com", "smaato.com", "pubnative.net", "mobfox.com",
    "analytics.tiktok.com", "ads.tiktok.com", "ads.linkedin.com", "ads.yahoo.com", "3lift.com",
    "adition.com", "adzerk.net", "bidr.io", "contextweb.com", "districtm.io", "emxdgt.com",
    "lijit.com", "mathtag.com", "sitescout.com", "spotxchange.com", "stickyadstv.com",
    "tremorhub.com", "undertone.com", "zemanta.com", "sonobi.com", "improvedigital.com",
    "adsymptotic.com", "themoneytizer.com", "adthrive.com", "mediavine.com", "sovrn.com",
    "onetag.io", "adkernel.com", "adpushup.com", "yieldlab.net", "adtelligent.com", "loopme.com",
    "smartyads.com", "adhigh.net", "adriver.ru", "adspirit.de", "rtbhouse.com", "onaudience.com",
    "id5-sync.com", "adlooxtracking.com", "adsco.re", "bttrack.com", "tracking-protection.com",
    "trackjs.com", "krux.net", "parsely.com", "chartbeat.com", "chartbeat.net", "dpm.demdex.net",
    "sc-static.net", "adsmoloco.com", "liftoff.io", "fyber.com", "digitalturbine.com", "pangle.io",
    "pangolin-sdk-toutiao.com", "mintegral.com", "adsgreat.com", "zqtk.net", "trafficjunky.com",
    "exoclick.com", "juicyads.com", "popads.net", "propellerads.com", "adsterra.com",
    "hilltopads.net", "clickadu.com", "adcash.com", "trafficstars.com", "ad.gt", "adnium.com",
    "adsupply.com", "bidvertiser.com", "infolinks.com", "smartlook.com", "heap.io",
    "heapanalytics.com", "pendo.io", "mouseflow.net", "matomo.cloud", "plausible.io",
    "statcounter.com", "histats.com", "googleads.g.doubleclick.net",
    "pagead2.googlesyndication.com", "securepubads.g.doubleclick.net", "adservice.google.co.uk",
    "ad.doubleclick.net", "stats.g.doubleclick.net", "cdn.branch.io", "api2.branch.io",
    "metrics.apple.com", "ads.mopub.com", "yektanet.com", "yn-cdn.com", "sabavision.com",
    "clickyab.com", "adivery.com", "tapsell.ir", "tapsell.com", "tapsell.net", "adad.ir",
    "adro.co", "mediaad.org", "anetwork.ir", "netbina.com", "adnegah.net", "zarpop.com",
    "metrix.ir", "adtrace.io", "pushe.co", "najva.com", "chabok.io", "webgozar.com", "webgozar.ir",
    "ads.aparat.com", "biz.varzesh3.com", "biz-cdn.varzesh3.com", "adnxs-simple.com",
    "adnexus.net", "advertserve.com", "adtech.de", "adtechus.com", "atdmt.com", "bat.bing.com",
    "clicktale.net", "decibelinsights.com", "quantcount.com", "adroll.com", "adroll.net",
    "rfihub.com", "turn.com", "mediamath.com", "adsymptotic.net", "simpli.fi", "eyeota.net",
    "semasio.net", "weborama.fr", "liadm.com", "tapad.com", "drawbridge.com", "nexac.com",
    "owneriq.net", "addthis.com", "sharethis.com", "po.st", "disqusads.com", "adform.com",
    "adotmob.com", "adux.com", "smartclip.net", "spotx.tv", "spotxcdn.com", "vidoomy.com",
    "viralize.com", "connatix.com", "primis.tech", "playwire.com", "adsninja.ca", "ezoic.net",
    "ezojs.com", "adsense.com", "adperium.com", "trackingsoft.com", "trkn.us", "tremorvideo.com",
    "yieldoptimizer.com", "onesignal.com", "pushwoosh.com", "pushengage.com", "izooto.com",
    "truepush.com", "webpushr.com", "sendpulse.com", "vwo.com", "crazyegg.com", "luckyorange.com",
    "usabilla.com", "qualtrics.com", "surveymonkey.com", "typekit.net", "kissmetrics.com",
    "woopra.com", "gosquared.com", "keen.io", "countly.com"]

end GRoute.ConfigBuilder
